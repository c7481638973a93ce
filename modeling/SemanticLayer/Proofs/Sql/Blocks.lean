import SemanticLayer.Proofs.Sql.Tables

/-
# Reading blocks

`reads_block` puts a `SELECT` block together from its items, its table, its
condition and its groups.  `refuses_block` says that a block is not read when
its table is not.
-/

namespace SemanticLayer.Sql

open Reader SemanticLayer.Sql.Inner

/-! ### Items -/

/-- The tokens that end an item of a block. -/
def itemEnders : List Token :=
  [.symbol ",", .symbol ")", kw "FROM", kw "WHERE", kw "GROUP", kw "ORDER", kw "UNION"]

theorem itemEnders_subset : itemEnders ⊆ enders := by simp [itemEnders, enders]

/-- What ends an item is no name of it. -/
theorem itemEnders_final : ∀ t ∈ itemEnders, isReserved columnReserved t = true ∧
    t.isKeyword "AS" = false := by
  decide

/-- An expression that may stand as an item: neither a `*` nor the word `from`. -/
def IsTerm (e : Expr) : Prop := (∀ qualifiers, e ≠ .star qualifiers) ∧ item.isFrom e = false

/-- The tokens `xs` are the item `it`, before whatever ends it. -/
structure IsItem (h : Nat) (xs : List Token) (it : Item) : Prop where
  reads {b d : Nat} {rest : List Token} (hd : h < d) (hb : xs.length < b)
    (hrest : Follows itemEnders rest) : Reads (level b d).item (xs ++ rest) it rest
  start (rest : List Token) : headIs (isAmong leadWords) (xs ++ rest) = false

section

variable {h : Nat} {xs ys rest : List Token} {e : Expr}

/-- An expression as an item, under a name if there is one. -/
def Item.ofExpr (e : Expr) : Option Name → Item
  | some n => .aliased e n
  | none => .expr e

theorem reads_item {i : Inner} {o : Option Name} (he : IsTerm e)
    (hexpr : Reads i.starOrExpr xs e ys) (hname : Reads (newName? columnReserved) ys o rest) :
    Reads i.item xs (Item.ofExpr e o) rest := by
  have hfrom : ¬ item.isFrom e = true := by
    rw [he.2]
    exact Bool.false_ne_true
  refine hexpr.bind ?_
  cases o <;> cases e with
  | star qualifiers => exact absurd rfl (he.1 qualifiers)
  | _ => exact .ite_neg hfrom (hname.bind (.pure _))

theorem IsExpr.reads_starOrExpr (he : IsExpr h 0 xs e) {b d : Nat} (hd : h < d) (hb : xs.length < b)
    (hrest : Follows enders rest) : Reads (level b d).starOrExpr (xs ++ rest) e rest :=
  ((he.unnamed hrest).star _).attempt_refuses.bind (he.reads_whole hd hb hrest)

theorem isItem_expr (he : IsExpr h 0 xs e) (hterm : IsTerm e) : IsItem h xs (.expr e) where
  reads hd hb hrest := by
    have hname := reads_newName_not (hrest.headIs fun t ht => (itemEnders_final t ht).2)
      fun t ht => (itemEnders_final t (hrest t ht)).1
    exact reads_item hterm (he.reads_starOrExpr hd hb (hrest.mono itemEnders_subset)) hname
  start := he.start

/-- **An expression under a name.** -/
theorem isItem_aliased (he : IsExpr h 0 xs e) (hterm : IsTerm e) (n : Name) :
    IsItem h (xs ++ [kw "AS", n.token]) (.aliased e n) where
  reads {b d rest} hd hb hrest := by
    rw [List.length_append] at hb
    rw [List.append_assoc]
    have has : Follows enders (kw "AS" :: n.token :: rest) := .cons (by simp [enders])
    exact reads_item hterm (he.reads_starOrExpr hd (by omega) has) reads_newName
  start rest := by
    rw [List.append_assoc]
    exact he.start _

/-! ### Clauses -/

/-- The tokens that end a block. -/
def blockEnders : List Token := [.symbol ")", kw "ORDER", kw "UNION"]

/-- The words of a block. -/
def distinctTokens (distinct : Bool) : List Token := if distinct then [kw "DISTINCT"] else []

def distinctParts (distinct : Bool) : List Part := if distinct then [.word "DISTINCT "] else []

theorem reads_selectWords {i : Inner} (distinct : Bool)
    (hxs : headIs (isAmong leadWords) xs = false) :
    Reads i.selectWords (distinctTokens distinct ++ xs) (distinctParts distinct) xs := by
  have hnot : ∀ k ∈ leadWords, headIs (·.isKeyword k) xs = false := fun k hk =>
    headIs_of_imp (fun _ => not_isKeyword_of_not_isAmong hk) hxs
  have htop := reads_takes_not (hnot "TOP" (by simp [leadWords]))
  cases distinct with
  | true =>
    refine (reads_takes_not rfl).bind (.bind_true (reads_takes (isKeyword_kw "DISTINCT"))
      (.ite_neg (by simp) ?_))
    exact .bind_false (reads_takes_not (hnot "ON" (by simp [leadWords])))
      (.bind (.pure _) (.bind_false htop (.bind (.pure []) (.pure _))))
  | false =>
    refine (reads_takes_not (hnot "ALL" (by simp [leadWords]))).bind ?_
    exact .bind_false (reads_takes_not (hnot "DISTINCT" (by simp [leadWords])))
      (.bind (.pure []) (.bind_false htop (.bind (.pure []) (.pure _))))

/-- The tokens `xs` are the term `e` of a `GROUP BY` clause, which starts with a name. -/
structure IsGroup (h : Nat) (xs : List Token) (e : Expr) : Prop where
  expr : IsExpr h 0 xs e
  named : ∃ (n : Name) (more : List Token), xs = n.token :: more

theorem IsGroup.reads (hg : IsGroup h xs e) {b d : Nat} (hd : h < d) (hb : xs.length < b)
    (hrest : Follows enders rest) : Reads (level b d).groupTerm (xs ++ rest) e rest := by
  have hstart := hg.expr.start rest
  have hwhole := hg.expr.reads_whole hd hb hrest
  obtain ⟨n, more, rfl⟩ := hg.named
  refine .bind_false (reads_takesAll_not (headIs_of_imp (fun _ =>
    not_isKeyword_of_not_isAmong (by simp [leadWords])) hstart)) ?_
  refine (reads_takesOneOf_not (headIs_of_imp (fun _ =>
    not_isAmong_of_subset (by simp [leadWords])) hstart)).bind ((reads_ahead 2).bind ?_)
  cases hmore : more ++ rest with
  | nil => simpa [hmore, Name.token] using hwhole
  | cons t ts => simpa [hmore, Name.token] using hwhole

/-- The terms that follow `GROUP BY`, if there are any. -/
def groupTokens (gss : List (List Token)) : List Token :=
  clauseTokens [kw "GROUP", kw "BY"] (if gss.isEmpty then none else some (between "," gss))

theorem length_between_le_groupTokens (gss : List (List Token)) :
    (between "," gss).length ≤ (groupTokens gss).length := by
  cases gss with
  | nil => exact Nat.le_refl _
  | cons gs gss =>
    exact Nat.le_trans (Nat.le_add_right _ 2) (Nat.le_of_eq (by simp [groupTokens, clauseTokens]))

theorem reads_groupBy {gss : List (List Token)} {es : List Expr}
    (hgs : List.Forall₂ (IsGroup h) gss es)
    {b d : Nat} (hd : h < d) (hb : (between "," gss).length < b)
    (hrest : Follows blockEnders rest) :
    Reads (level b d).groupBy (groupTokens gss ++ rest) es rest := by
  have hgroup : ∀ t ∈ blockEnders, t.isKeyword "GROUP" = false := by decide
  have hcomma : ∀ t ∈ blockEnders, isSymbol "," t = false := by decide
  have hsubset : blockEnders ⊆ enders := by simp [blockEnders, enders]
  cases hgs with
  | nil => exact .bind_false (reads_takesAll_not (hrest.headIs hgroup)) (.pure [])
  | @cons gs e gss es hg hgs =>
    have hlist :
        Reads (list b (level b d).groupTerm) (between "," (gs :: gss) ++ rest) (e :: es) rest :=
      reads_list (by simp [enders]) ((List.Forall₂.cons hg hgs).imp fun _ _ hg _ => hg.reads hd) hb
        (List.cons_ne_nil _ _) (hrest.mono hsubset) (hrest.headIs hcomma)
    have hall : headIs (·.isKeyword "ALL") (between "," (gs :: gss) ++ rest) = false :=
      headIs_of_imp (fun _ => not_isKeyword_of_not_isAmong (by simp [leadWords]))
        (start_between hg.expr.start gss rest)
    exact .bind_true (reads_takesAll ["GROUP", "BY"])
      (.bind_false (reads_takes_not hall) hlist)

theorem reads_exprClause_not {i : Inner} {k : String} {ks : List String}
    (hrest : Follows followers rest)
    (hk : k ∈ furtherWords) : Reads (i.exprClause (k :: ks)) rest [] rest :=
  .bind_false (reads_takesAll_not (hrest.sees_not hk)) (.pure [])

theorem reads_windowClauses_none {i : Inner} (hrest : Follows followers rest) :
    Reads i.windowClauses rest [] rest :=
  .bind_false (reads_takes_not (hrest.sees_not (by simp [furtherWords])))
    (.bind_false (reads_takes_not (hrest.sees_not (by simp [furtherWords]))) (.pure []))

theorem reads_views_none {i : Inner} (hrest : Follows followers rest) :
    Reads (many i.lateralView i.budget) rest [] rest := by
  have hview : Reads i.lateralView rest none rest :=
    .bind_false (reads_takesAll_not (hrest.sees_not (by simp [furtherWords]))) (.pure none)
  cases i.budget with
  | zero => exact .pure []
  | succ b => exact hview.bind (.pure [])

/-- A list of one element. -/
theorem reads_single {α : Type} {b : Nat} {r : Reader α} {a : α} (hb : 0 < b)
    (hr : Reads r xs a rest)
    (hrest : headIs (isSymbol ",") rest = false) : Reads (list b r) xs [a] rest := by
  obtain ⟨b, rfl⟩ : ∃ c, b = c + 1 := ⟨b - 1, by omega⟩
  exact hr.bind (.bind_false (reads_takesSymbol_not hrest) (.pure [a]))

/-! ### Blocks -/

/-- What comes behind a clause of a block, whose words may be those of the clauses behind it. -/
theorem follows_clause {s : List Token} {t : Token} {words : List Token}
    {clause : Option (List Token)}
    (ht : t ∈ s) (hrest : Follows s rest) :
    Follows s (clauseTokens (t :: words) clause ++ rest) := by
  cases clause with
  | none => exact hrest
  | some clause => exact .cons ht

/-- What may stand where the condition of a block stands. -/
def conditionEnders : List Token := kw "WHERE" :: kw "GROUP" :: blockEnders

/-- Which tokens a clause of a block may be told from. -/
theorem conditionEnders_final :
    (∀ t ∈ conditionEnders, t.isKeyword "FROM" = false ∧ isSymbol "," t = false) ∧
      ∀ t ∈ kw "GROUP" :: blockEnders, t.isKeyword "WHERE" = false := by
  decide

section

variable {b d : Nat} {xss gss : List (List Token)} {items : List Item} {groups : List Expr}
  {ts cs : Option (List Token)} {source : Option Source} {condition : Option Expr}

/-- The clauses behind the table of a block. -/
theorem reads_clauses (words : List Part) (items : List Item) (sources : List Source)
    (hcondition : Option.Rel (IsExpr h 0) cs condition)
    (hgroups : List.Forall₂ (IsGroup h) gss groups)
    (hd : h < d) (hb : (clauseTokens [kw "WHERE"] cs ++ groupTokens gss).length < b)
    (hrest : Follows blockEnders rest) :
    Reads (do
      let views ← many (level b d).lateralView b
      let condition ← whenTakes "WHERE" (level b d).whole
      let group ← (level b d).groupBy
      let cluster ← (level b d).exprClause ["CLUSTER", "BY"]
      let distribute ← (level b d).exprClause ["DISTRIBUTE", "BY"]
      let sort ← (level b d).exprClause ["SORT", "BY"]
      let having ← whenTakes "HAVING" (level b d).whole
      let tail ← (level b d).windowClauses
      return Select.mk words items none sources views.flatten condition group
        (cluster ++ distribute ++ sort) having tail)
      (clauseTokens [kw "WHERE"] cs ++ (groupTokens gss ++ rest))
      (.mk words items none sources [] condition groups [] none []) rest := by
  rw [List.length_append] at hb
  have hend : Follows followers rest := hrest.mono (by simp [blockEnders, followers, enders])
  have hgroupEnd : Follows (kw "GROUP" :: blockEnders) (groupTokens gss ++ rest) :=
    follows_clause List.mem_cons_self (hrest.mono (List.subset_cons_self _ _))
  have hconditionEnd : Follows conditionEnders
      (clauseTokens [kw "WHERE"] cs ++ (groupTokens gss ++ rest)) :=
    follows_clause List.mem_cons_self (hgroupEnd.mono (List.subset_cons_self _ _))
  have hwhere : Reads (whenTakes "WHERE" (level b d).whole)
      (clauseTokens [kw "WHERE"] cs ++ (groupTokens gss ++ rest)) condition
      (groupTokens gss ++ rest) := by
    cases hcondition with
    | none => exact reads_whenTakes_not (hgroupEnd.headIs conditionEnders_final.2)
    | some he =>
      refine reads_whenTakes (isKeyword_kw "WHERE") (he.reads_whole hd ?_ ?_)
      · rw [clauseTokens, List.length_append, List.length_singleton] at hb
        omega
      · exact hgroupEnd.mono (by simp [blockEnders, enders])
  have hgroupBy : Reads (level b d).groupBy (groupTokens gss ++ rest) groups rest := by
    have := length_between_le_groupTokens gss
    exact reads_groupBy hgroups hd (by omega) hrest
  refine (reads_views_none (hconditionEnd.mono ?_)).bind (hwhere.bind (hgroupBy.bind ?_))
  · simp [conditionEnders, blockEnders, followers, enders]
  refine (reads_exprClause_not hend (by simp [furtherWords])).bind
    ((reads_exprClause_not hend (by simp [furtherWords])).bind
      ((reads_exprClause_not hend (by simp [furtherWords])).bind ?_))
  exact (reads_whenTakes_not (hend.sees_not (by simp [furtherWords]))).bind
    ((reads_windowClauses_none hend).bind (.pure _))

/-- The items of a block, with the words before them. -/
theorem reads_items (hitems : List.Forall₂ (IsItem h) xss items) (hne : xss ≠ []) (hd : h < d)
    (hb : (between "," xss).length < b) (hrest : Follows (kw "FROM" :: conditionEnders) rest) :
    headIs (isAmong leadWords) (between "," xss ++ rest) = false ∧
      Reads (list b (level b d).item) (between "," xss ++ rest) items rest := by
  have hcomma : ∀ t ∈ kw "FROM" :: conditionEnders, isSymbol "," t = false := by
    exact List.forall_mem_cons.2 ⟨rfl, fun t ht => (conditionEnders_final.1 t ht).2⟩
  have hstart : headIs (isAmong leadWords) (between "," xss ++ rest) = false := by
    cases hitems with
    | nil => exact absurd rfl hne
    | cons hit _ => exact start_between hit.start _ rest
  refine ⟨hstart, ?_⟩
  exact reads_list (s := itemEnders) (by simp [itemEnders])
    (hitems.imp fun _ _ hit _ => hit.reads hd) hb hne
    (hrest.mono (by simp [itemEnders, conditionEnders, blockEnders])) (hrest.headIs hcomma)

/-- **A block is read clause by clause.** -/
theorem reads_block (distinct : Bool) (hitems : List.Forall₂ (IsItem h) xss items) (hne : xss ≠ [])
    (hsource : Option.Rel (IsSource h) ts source)
    (hcondition : Option.Rel (IsExpr h 0) cs condition)
    (hgroups : List.Forall₂ (IsGroup h) gss groups) (hd : h < d)
    (hb : (between "," xss ++ clauseTokens [kw "FROM"] ts ++ (clauseTokens [kw "WHERE"] cs ++
      groupTokens gss)).length < b) (hrest : Follows blockEnders rest) :
    Reads (level b d).block
      (distinctTokens distinct ++ (between "," xss ++ (clauseTokens [kw "FROM"] ts ++
        (clauseTokens [kw "WHERE"] cs ++ (groupTokens gss ++ rest)))))
      (.mk (distinctParts distinct) items none source.toList [] condition groups [] none [])
        rest := by
  rw [List.length_append, List.length_append] at hb
  have hgroupEnd : Follows (kw "GROUP" :: blockEnders) (groupTokens gss ++ rest) :=
    follows_clause List.mem_cons_self (hrest.mono (List.subset_cons_self _ _))
  have hend : Follows conditionEnders (clauseTokens [kw "WHERE"] cs ++ (groupTokens gss ++ rest)) :=
    follows_clause List.mem_cons_self (hgroupEnd.mono (List.subset_cons_self _ _))
  have hfrom : Follows (kw "FROM" :: conditionEnders) (clauseTokens [kw "FROM"] ts ++
      (clauseTokens [kw "WHERE"] cs ++ (groupTokens gss ++ rest))) :=
    follows_clause List.mem_cons_self (hend.mono (List.subset_cons_self _ _))
  have hfollows : Follows followers (clauseTokens [kw "FROM"] ts ++
      (clauseTokens [kw "WHERE"] cs ++ (groupTokens gss ++ rest))) :=
    hfrom.mono (by simp [conditionEnders, blockEnders, followers, enders])
  obtain ⟨hstart, hlist⟩ := reads_items (b := b) hitems hne hd (by omega) hfrom
  refine (reads_selectWords distinct hstart).bind (hlist.bind ?_)
  refine (reads_whenTakes_not (hfollows.sees_not (by simp [furtherWords]))).bind ?_
  cases hsource with
  | none =>
    have hno := hend.headIs (p := (·.isKeyword "FROM")) fun t ht => (conditionEnders_final.1 t ht).1
    exact .bind_false (reads_takes_not hno)
      (.bind (.pure []) (reads_clauses _ _ _ hcondition hgroups hd (by omega) hrest))
  | @some xs s hs =>
    rw [clauseTokens, List.length_append, List.length_singleton] at hb
    have hsourceEnd :
        Follows sourceEnders (clauseTokens [kw "WHERE"] cs ++ (groupTokens gss ++ rest)) :=
      hend.mono (by simp [conditionEnders, blockEnders, sourceEnders])
    have hsources : Reads (list b (level b d).source)
        (xs ++ (clauseTokens [kw "WHERE"] cs ++ (groupTokens gss ++ rest))) [s]
        (clauseTokens [kw "WHERE"] cs ++ (groupTokens gss ++ rest)) :=
      reads_single (Nat.zero_lt_of_lt hb) (hs hd (by omega) hsourceEnd)
        (hend.headIs fun t ht => (conditionEnders_final.1 t ht).2)
    exact .bind_true (reads_takes (isKeyword_kw "FROM"))
      (hsources.bind (reads_clauses _ _ _ hcondition hgroups hd (by omega) hrest))

/-- A block is not read with a table that cannot be read. -/
theorem refuses_block {ys : List Token} (hitems : List.Forall₂ (IsItem h) xss items)
    (hne : xss ≠ [])
    (hd : h < d) (hb : (between "," xss).length < b) (hsource : Refuses (level b d).source ys) :
    Refuses (level b d).block (between "," xss ++ kw "FROM" :: ys) := by
  have hfrom : Follows (kw "FROM" :: conditionEnders) (kw "FROM" :: ys) := .cons List.mem_cons_self
  obtain ⟨hstart, hlist⟩ := reads_items hitems hne hd hb hfrom
  have hsources : Refuses (list b (level b d).source) ys := by
    obtain ⟨b, rfl⟩ : ∃ c, b = c + 1 := ⟨b - 1, by omega⟩
    exact hsource.bind_refuses
  refine (reads_selectWords false hstart).bind (hlist.bind ?_)
  exact (reads_whenTakes_not rfl).bind (.bind_true (reads_takes (isKeyword_kw "FROM"))
    hsources.bind_refuses)

end

end

end SemanticLayer.Sql
