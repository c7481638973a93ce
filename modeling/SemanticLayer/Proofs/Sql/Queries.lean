import SemanticLayer.Proofs.Sql.Blocks

/-
# Reading queries

A body is a block, a list of rows, or two of these with `UNION ALL` between
them; a query is a body, with tables defined before it and an order behind it.
-/

namespace SemanticLayer.Sql

open Reader SemanticLayer.Sql.Inner

section

variable {h : Nat} {xs ys rest : List Token} {e : Expr}

/-! ### Bodies -/

/-- A body starts with the word that says what it is. -/
def StartsBody (xs : List Token) : Prop := ∃ k more, xs = kw k :: more ∧ k ∈ ["SELECT", "VALUES"]

/-- The tokens `xs` are the body `q` without set operators, before whatever ends it. -/
structure IsSimple (h : Nat) (xs : List Token) (q : Body) : Prop where
  reads {b d : Nat} {rest : List Token} (hd : h < d) (hb : xs.length < b)
    (hrest : Follows blockEnders rest) : Reads (level b d).simpleBody (xs ++ rest) q rest
  start : StartsBody xs

/-- The tokens that end a body. -/
def bodyEnders : List Token := [.symbol ")", kw "ORDER"]

/-- The tokens `xs` are the body `q`, before whatever ends it. -/
structure IsBody (h : Nat) (xs : List Token) (q : Body) : Prop where
  reads {b d : Nat} {rest : List Token} (hd : h < d) (hb : xs.length < b)
    (hrest : Follows bodyEnders rest) : Reads (level b d).body (xs ++ rest) q rest
  start : StartsBody xs

theorem StartsBody.append (hxs : StartsBody xs) (ys : List Token) : StartsBody (xs ++ ys) := by
  obtain ⟨k, more, rfl, hk⟩ := hxs
  exact ⟨k, more ++ ys, rfl, hk⟩

/-- No body starts with another word. -/
theorem StartsBody.sees_not (hxs : StartsBody xs) {k : String} (hk : k ∉ ["SELECT", "VALUES"]) :
    headIs (·.isKeyword k) xs = false := by
  obtain ⟨k', more, rfl, hk'⟩ := hxs
  exact beq_eq_false_iff_ne.2 fun h => hk (h ▸ hk')

/-- **A block with its first word.** -/
theorem isSimple_select (distinct : Bool) {xss gss : List (List Token)} {items : List Item}
    {groups : List Expr} {ts cs : Option (List Token)} {source : Option Source}
    {condition : Option Expr} (hitems : List.Forall₂ (IsItem h) xss items) (hne : xss ≠ [])
    (hsource : Option.Rel (IsSource h) ts source)
    (hcondition : Option.Rel (IsExpr h 0) cs condition)
    (hgroups : List.Forall₂ (IsGroup h) gss groups) :
    IsSimple h (kw "SELECT" :: (distinctTokens distinct ++ between "," xss ++
        clauseTokens [kw "FROM"] ts ++ clauseTokens [kw "WHERE"] cs ++ groupTokens gss))
      (.select (.mk (distinctParts distinct) items none source.toList [] condition groups []
        none [])) where
  reads {b d rest} hd hb hrest := by
    simp only [List.length_cons, List.length_append] at hb
    simp only [List.cons_append, List.append_assoc]
    have hblock := reads_block (b := b) distinct hitems hne hsource hcondition hgroups hd
      (by simp only [List.length_append]; omega) hrest
    exact .bind_true (reads_takes (isKeyword_kw "SELECT")) (hblock.bind (.pure _))
  start := ⟨_, _, rfl, by simp⟩

/-- A row of expressions in brackets. -/
theorem reads_row {rs : List (List Token)} {es : List Expr} (hes : List.Forall₂ (IsExpr h 0) rs es)
    (hne : rs ≠ []) {b d : Nat} (hd : h < d) (hb : (between "," rs).length < b) :
    Reads (level b d).row (.symbol "(" :: (between "," rs ++ .symbol ")" :: rest)) es rest := by
  have hlist : Reads (level b d).exprs (between "," rs ++ .symbol ")" :: rest) es
      (.symbol ")" :: rest) :=
    reads_list (s := enders) (by simp [enders])
      (hes.imp fun _ _ he _ => he.reads_whole hd) hb hne
      (.cons (s := enders) (by simp [enders])) rfl
  exact reads_bracketed hlist

/-- **Rows of expressions.** -/
theorem isSimple_values {rss : List (List (List Token))} {rows : List (List Expr)}
    (hrows : List.Forall₂ (fun rs es => rs ≠ [] ∧ List.Forall₂ (IsExpr h 0) rs es) rss rows)
    (hne : rss ≠ []) :
    IsSimple h (kw "VALUES" :: between "," (rss.map fun rs =>
      .symbol "(" :: (between "," rs ++ [.symbol ")"]))) (.values "" rows) where
  reads {b d rest} hd hb hrest := by
    rw [List.length_cons] at hb
    have hcomma : ∀ t ∈ blockEnders, isSymbol "," t = false := by decide
    have hlist : Reads (list b do
          let explicit ← takes "ROW"
          return (explicit, ← (level b d).row))
        (between "," (rss.map fun rs => .symbol "(" :: (between "," rs ++ [.symbol ")"])) ++ rest)
        (rows.map fun row => (false, row)) rest := by
      refine reads_list (s := .symbol "," :: blockEnders) List.mem_cons_self ?_
        (Nat.lt_of_succ_lt hb) (by simpa using hne) (hrest.mono (List.subset_cons_self _ _))
        (hrest.headIs hcomma)
      refine List.forall₂_map_left_iff.2 (List.forall₂_map_right_iff.2 (hrows.imp ?_))
      intro rs es hes rest hb _
      rw [List.length_cons, List.length_append] at hb
      rw [List.cons_append, List.append_assoc]
      exact (reads_takes_not rfl).bind ((reads_row hes.2 hes.1 hd (by omega)).bind (.pure _))
    have hplain : (rows.map fun row => (false, row)).any (·.1) = false := by simp
    have hbody : Reads (level b d).valueRows
        (between "," (rss.map fun rs => .symbol "(" :: (between "," rs ++ [.symbol ")"])) ++ rest)
        (.values "" rows) rest := by
      refine hlist.bind ?_
      rw [hplain, List.map_map, List.map_congr_left fun row _ => Function.comp_apply, List.map_id']
      exact .pure _
    refine .bind_false (reads_takes_not rfl) (.bind_false (reads_seesSymbol "(") ?_)
    exact .bind_true (reads_takes (isKeyword_kw "VALUES")) hbody
  start := ⟨_, _, rfl, by simp⟩

theorem reads_setOperator_none (hrest : Follows bodyEnders rest) :
    Reads setOperator rest none rest := by
  refine reads_peek.bind ?_
  cases rest with
  | nil => exact .pure none
  | cons t rest =>
    have ht := hrest t rfl
    simp only [bodyEnders, List.mem_cons, List.not_mem_nil, or_false] at ht
    rcases ht with rfl | rfl
    · exact .pure none
    · exact .pure none

/-- A body ends where there is no set operator. -/
theorem reads_setTail_end {least b : Nat} {right : Nat → Reader Body} {q : Body} (hb : 0 < b)
    (hrest : Follows bodyEnders rest) : Reads (setTail least right b q) rest q rest := by
  obtain ⟨b, rfl⟩ : ∃ c, b = c + 1 := ⟨b - 1, by omega⟩
  exact (reads_setOperator_none hrest).bind (.pure q)

theorem bodyEnders_subset : bodyEnders ⊆ blockEnders := by simp [bodyEnders, blockEnders]

theorem IsSimple.isBody {q : Body} (hq : IsSimple h xs q) : IsBody h xs q where
  reads hd hb hrest := (hq.reads hd hb (hrest.mono bodyEnders_subset)).bind
    (reads_setTail_end (Nat.zero_lt_of_lt hb) hrest)
  start := hq.start

/-- **All rows of two bodies.** -/
theorem isBody_union {left right : Body} (hl : IsSimple h xs left) (hr : IsSimple h ys right) :
    IsBody h (xs ++ kw "UNION" :: kw "ALL" :: ys) (.setOp left "UNION ALL" right) where
  reads {b d rest} hd hb hrest := by
    rw [List.length_append, List.length_cons, List.length_cons] at hb
    obtain ⟨c, rfl⟩ : ∃ c, b = c + 2 := ⟨b - 2, by omega⟩
    have hwords : "UNION" ++ " ALL" = "UNION ALL" := by decide
    have hunion : Follows blockEnders (kw "UNION" :: kw "ALL" :: (ys ++ rest)) :=
      .cons (by simp [blockEnders])
    have hoperator : Reads setOperator (kw "UNION" :: kw "ALL" :: (ys ++ rest)) (some "UNION")
        (kw "UNION" :: kw "ALL" :: (ys ++ rest)) := reads_peek.bind (.pure _)
    have hby : Refuses (Reader.keywords ["ALL", "BY", "NAME"]) (kw "ALL" :: (ys ++ rest)) :=
      (reads_keyword (isKeyword_kw "ALL")).bind
        (refuses_keyword ((hr.start.append rest).sees_not (by simp))).bind_refuses
    have hall : Reads setWords (kw "ALL" :: (ys ++ rest)) " ALL" (ys ++ rest) :=
      .bind_false (reads_takesAll_not rfl) (.bind_false (reads_takesAll_not rfl)
        (.bind_false (hby.attempt_refuses.bind (.pure false))
          (.bind_true (reads_takesAll ["ALL"]) (.pure _))))
    have hright : Reads (level (c + 2) d).termBody (ys ++ rest) right rest :=
      (hr.reads hd (by omega) (hrest.mono bodyEnders_subset)).bind
        (reads_setTail_end (Nat.succ_pos _) hrest)
    rw [List.append_assoc, ← hwords]
    refine (hl.reads hd (by omega) hunion).bind (hoperator.bind (.ite_pos (by decide) ?_))
    exact reads_skip.bind (hall.bind (.bind (.ite_neg (by decide) hright)
      (reads_setTail_end (Nat.succ_pos c) hrest)))
  start := hl.start.append _

/-! ### Queries -/

/-- Behind a query there are no limits and no locks. -/
theorem reads_queryTail {i : Inner} {w : Option With} {q : Body} {order : List (Expr × String)}
    (hb : 0 < i.budget) (horder : Reads i.orderBy xs order rest) (hrest : Follows followers rest) :
    Reads (i.queryTail w q) xs (.mk w q order [] [] "") rest := by
  have hnot : ∀ k ∈ furtherWords, Reads (takes k) rest false rest := fun k hk =>
    reads_takes_not (hrest.sees_not hk)
  have hstep : Reads (limits.step i ([], [])) rest ([], []) rest := by
    unfold limits.step
    refine .bind_false (hnot "LIMIT" (by simp [furtherWords])) (.bind (.pure []) ?_)
    exact .bind_false (hnot "OFFSET" (by simp [furtherWords])) (.bind (.pure []) (.pure _))
  have hlocks : Reads (i.forClauses i.budget) rest ([], "") rest := by
    obtain ⟨b, hb⟩ : ∃ b, i.budget = b + 1 := ⟨i.budget - 1, by omega⟩
    rw [hb]
    exact .bind_false (hnot "FOR" (by simp [furtherWords])) (.pure _)
  refine horder.bind ((hstep.bind (hstep.bind (.pure []))).bind ?_)
  exact .bind_false (hnot "FETCH" (by simp [furtherWords]))
    (.bind (.pure []) (hlocks.bind (.pure _)))

/-- A query is what its body and what is behind it are, after the tables defined before it. -/
theorem yields_queryAbove {i : Inner} {w : Option With} {o : Option (Query × List Token)}
    (hwith : Reads i.withClause xs w ys) (hys : StartsBody ys)
    (hbody : Yields (i.body >>= i.queryTail w) ys o) : Yields (Grammar.queryAbove i) xs o :=
  hwith.bind (.bind_false (reads_takes_not (hys.sees_not (by simp)))
    (.bind_false (reads_takes_not (hys.sees_not (by simp))) hbody))

/-- **A body is a query** one level above it. -/
theorem IsBody.isQuery {q : Body} (hq : IsBody h xs q) :
    IsQuery (h + 1) xs (.mk none q [] [] [] "") := by
  intro b d rest hd hb
  have hclose : Follows bodyEnders (.symbol ")" :: rest) := .cons (by simp [bodyEnders])
  have hstart := hq.start.append (.symbol ")" :: rest)
  refine yields_queryAbove (reads_whenTakes_not (hstart.sees_not (by simp))) hstart ?_
  exact (hq.reads hd hb hclose).bind (reads_queryTail (Nat.zero_lt_of_lt hb)
    (.bind_false (reads_takesAll_not rfl) (.pure [])) (.cons (by simp [followers, enders])))

/-! ### Defined tables -/

/-- The tokens behind a defined table. -/
def definitionEnders : List Token := [.symbol ",", kw "SELECT", kw "VALUES"]

/-- The tokens `xs` are the defined table `t`, before another one or a body. -/
structure IsTableDef (h : Nat) (xs : List Token) (t : TableDef) : Prop where
  reads {b d : Nat} {rest : List Token} (hd : h < d) (hb : xs.length < b)
    (hrest : Follows definitionEnders rest) : Reads (level b d).tableDef (xs ++ rest) t rest
  start : ∃ (n : Name) (more : List Token), xs = n.token :: more ∧ n.keyword ≠ "RECURSIVE"

theorem IsTableDef.mono {h' : Nat} {t : TableDef} (ht : IsTableDef h xs t) (hh : h ≤ h') :
    IsTableDef h' xs t where
  reads hd hb hrest := ht.reads (Nat.lt_of_le_of_lt hh hd) hb hrest
  start := ht.start

/-- A name with the names of columns, if there are any. -/
def aliasTokens (a : Alias) : List Token :=
  a.name.token :: if a.columns.isEmpty then []
    else .symbol "(" :: (between "," (a.columns.map fun n => [n.token]) ++ [.symbol ")"])

/-- The columns of a defined table are in brackets. -/
theorem yields_columns {α : Type} {b : Nat} {columns : List Name} {f : List Name → Reader α}
    {o : Option (α × List Token)} (hb : (between "," (columns.map fun n => [n.token])).length < b)
    (hf : Yields (f columns) (kw "AS" :: rest) o) :
    Yields (sees "AS" >>= fun named => if named = true then pure [] >>= f else names b >>= f)
      ((if columns.isEmpty then []
        else .symbol "(" :: (between "," (columns.map fun n => [n.token]) ++ [.symbol ")"])) ++
        kw "AS" :: rest) o := by
  cases columns with
  | nil => exact .bind_true (reads_sees "AS") (.bind (.pure []) hf)
  | cons n columns =>
    have hlist : Reads (list b name)
        (between "," ((n :: columns).map fun n => [n.token]) ++ .symbol ")" :: kw "AS" :: rest)
        (n :: columns) (.symbol ")" :: kw "AS" :: rest) := by
      refine reads_list (s := enders) (by simp [enders]) ?_ hb (by simp)
        (.cons (by simp [enders])) rfl
      exact List.forall₂_map_left_iff.2 (List.forall₂_same.2 fun n _ rest _ _ => reads_name rfl)
    simp only [List.isEmpty_cons, Bool.false_eq_true, if_false, List.cons_append, List.append_assoc,
      List.nil_append]
    exact .bind_false (reads_sees "AS") ((reads_bracketed hlist).bind hf)

/-- **A query under a name.** -/
theorem isTableDef {q : Query} (a : Alias) (ha : a.name.keyword ≠ "RECURSIVE")
    (hq : IsQuery h xs q) :
    IsTableDef h (aliasTokens a ++ kw "AS" :: .symbol "(" :: (xs ++ [.symbol ")"])) (.mk a "" q "")
    where
  reads {b d rest} hd hb hrest := by
    obtain ⟨n, columns⟩ := a
    have hfrom : ∀ t ∈ definitionEnders, t.isKeyword "FROM" = false := by decide
    have hlength : (between "," (columns.map fun n => [n.token])).length + xs.length < b := by
      refine Nat.lt_of_le_of_lt ?_ hb
      cases columns with
      | nil =>
        simp [aliasTokens, between]
        omega
      | cons m columns =>
        simp [aliasTokens]
        omega
    have hquery : Reads (level b d).subquery (.symbol "(" :: (xs ++ .symbol ")" :: rest)) q rest :=
      reads_bracketed (hq.reads_nested hd (by omega))
    have hplain : Reads (firstPhrase [["MATERIALIZED"], ["NOT", "MATERIALIZED"]])
        (.symbol "(" :: (xs ++ .symbol ")" :: rest)) ""
          (.symbol "(" :: (xs ++ .symbol ")" :: rest)) :=
      .bind_false (reads_takesAll_not rfl) (.bind_false (reads_takesAll_not rfl) (.pure ""))
    simp only [aliasTokens, List.cons_append, List.append_assoc, List.nil_append]
    refine (reads_name rfl).bind
      (yields_columns (b := b) (by omega) ((reads_keyword (isKeyword_kw "AS")).bind ?_))
    exact hplain.bind (hquery.bind ((reads_whenTakes_not (hrest.headIs hfrom)).bind (.pure _)))
  start := ⟨a.name, _, rfl, ha⟩

/-! ### Queries with defined tables -/

section

variable {b d : Nat} {tss oss : List (List Token)} {ts : List TableDef} {es : List Expr} {q : Body}

/-- The tables that are defined before a body. -/
theorem reads_withClause (htables : List.Forall₂ (IsTableDef h) tss ts) (hne : tss ≠ [])
    (hys : StartsBody ys) (hd : h < d) (hb : (between "," tss).length < b) :
    Reads (level b d).withClause (kw "WITH" :: (between "," tss ++ ys))
      (some (.mk false ts)) ys := by
  have hends : Follows definitionEnders ys := by
    obtain ⟨k, more, rfl, hk⟩ := hys
    simp only [List.mem_cons, List.not_mem_nil, or_false] at hk
    rcases hk with rfl | rfl <;> exact .cons (by simp [definitionEnders])
  have hcomma : headIs (isSymbol ",") ys = false := by
    obtain ⟨k, more, rfl, -⟩ := hys
    rfl
  have hrecursive : headIs (·.isKeyword "RECURSIVE") (between "," tss ++ ys) = false := by
    cases htables with
    | nil => exact absurd rfl hne
    | @cons xs t tss ts ht hts =>
      obtain ⟨n, more, rfl, hn⟩ := ht.start
      cases tss <;> exact n.not_isKeyword hn
  have hlist : Reads (list b (level b d).tableDef) (between "," tss ++ ys) ts ys :=
    reads_list (by simp [definitionEnders]) (htables.imp fun _ _ ht _ => ht.reads hd) hb hne hends
      hcomma
  exact reads_whenTakes (isKeyword_kw "WITH")
    ((reads_takes_not hrecursive).bind (hlist.bind (.pure _)))

/-- A term that a query is ordered by. -/
theorem reads_orderTerm (he : IsExpr h 0 xs e) (hd : h < d) (hb : xs.length < b)
    (hrest : Follows enders rest) : Reads (level b d).orderTerm (xs ++ rest) (e, "") rest := by
  have hnot : ∀ k ∈ furtherWords, headIs (·.isKeyword k) rest = false := fun k hk =>
    (hrest.ends 0).1.sees_not hk
  have hdirection : Reads (firstPhrase [["ASC"], ["DESC"]]) rest "" rest :=
    .bind_false (reads_takesAll_not (hnot "ASC" (by simp [furtherWords])))
      (.bind_false (reads_takesAll_not (hnot "DESC" (by simp [furtherWords]))) (.pure ""))
  have hnulls : Reads (firstPhrase [["NULLS", "FIRST"], ["NULLS", "LAST"]]) rest "" rest :=
    .bind_false (reads_takesAll_not (hnot "NULLS" (by simp [furtherWords])))
      (.bind_false (reads_takesAll_not (hnot "NULLS" (by simp [furtherWords]))) (.pure ""))
  exact (he.reads_whole hd hb hrest).bind (hdirection.bind (hnulls.bind (.pure _)))

/-- **A query with defined tables and an order,** up to the end of the tokens. -/
theorem reads_orderedQuery (htables : List.Forall₂ (IsTableDef h) tss ts) (hne : tss ≠ [])
    (hbody : IsBody h xs q) (horder : List.Forall₂ (IsExpr h 0) oss es) (hsome : oss ≠ [])
    (hd : h < d)
    (hb : (kw "WITH" ::
      (between "," tss ++ (xs ++ kw "ORDER" :: kw "BY" :: between "," oss))).length < b) :
    Reads (Grammar.queryAbove (level b d))
      (kw "WITH" :: (between "," tss ++ (xs ++ kw "ORDER" :: kw "BY" :: between "," oss)))
      (.mk (some (.mk false ts)) q (es.map fun e => (e, "")) [] [] "") [] := by
  simp only [List.length_cons, List.length_append] at hb
  have hstart := hbody.start.append (kw "ORDER" :: kw "BY" :: between "," oss)
  have hwith := reads_withClause htables hne hstart hd (b := b) (by omega)
  have hends : Follows bodyEnders (kw "ORDER" :: kw "BY" :: between "," oss) :=
    .cons (by simp [bodyEnders])
  have hlist :
      Reads (list b (level b d).orderTerm) (between "," oss ++ []) (es.map fun e => (e, "")) [] :=
    reads_list (s := enders) (by simp [enders])
      (List.forall₂_map_right_iff.2 (horder.imp fun _ _ he _ => reads_orderTerm he hd))
        (by omega) hsome
      (.nil enders) rfl
  rw [List.append_nil] at hlist
  have horderBy : Reads (level b d).orderBy (kw "ORDER" :: kw "BY" :: between "," oss)
      (es.map fun e => (e, "")) [] := .bind_true (reads_takesAll ["ORDER", "BY"]) hlist
  refine yields_queryAbove hwith hstart ((hbody.reads hd (by omega) hends).bind ?_)
  exact reads_queryTail (show 0 < b by omega) horderBy (.nil _)

/-- A query is not read with a body that cannot be read. -/
theorem refuses_query (htables : List.Forall₂ (IsTableDef h) tss ts) (hne : tss ≠ [])
    (hys : StartsBody ys) (hbody : Refuses (level b d).body ys) (hd : h < d)
    (hb : (between "," tss).length < b) :
    Refuses (Grammar.queryAbove (level b d)) (kw "WITH" :: (between "," tss ++ ys)) :=
  yields_queryAbove (reads_withClause htables hne hys hd hb) hys hbody.bind_refuses

end

/-! ### Texts -/

theorem reads_semicolons_none {b : Nat} (hxs : headIs (isSymbol ";") xs = false) :
    Reads (semicolons b) xs false xs := by
  cases b with
  | zero => exact .pure false
  | succ b => exact .bind_false (reads_takesSymbol_not hxs) (.pure false)

/-- A text with one statement, up to its end. -/
theorem yields_statements {statement : Reader Statement} {b : Nat} {t : Token}
    {o : Option (Statement × List Token)} (ht : isSymbol ";" t = false)
    (hstatement : Yields statement (t :: xs) o) (ho : ∀ p ∈ o, p.2 = []) :
    Yields (statements statement (b + 2) true) (t :: xs) (o.map fun p => ([p.1], [])) := by
  have hfirst : Reads (semicolons (b + 1)) (t :: xs) false (t :: xs) := reads_semicolons_none ht
  refine hfirst.bind (reads_peek.bind (.ite_pos (.inl rfl) ?_))
  cases o with
  | none => exact hstatement.bind_refuses
  | some p =>
    obtain ⟨s, rest⟩ := p
    obtain rfl : rest = [] := ho _ rfl
    have hend : Reads (statements statement (b + 1) false) [] [] [] :=
      (reads_semicolons_none rfl).bind (reads_peek.bind (.pure []))
    exact hstatement.bind (hend.bind (.pure _))

/-- **What is read of a text is what is read of its query,** two levels below the outermost one. -/
theorem parse_of_yields {sql : String} {ts : List Token} {o : Option (Query × List Token)}
    (htokens : tokens sql.toList = some ts) (hvisible : visible ts = kw "WITH" :: xs)
    (hquery : ∀ {b : Nat}, xs.length + 1 < b →
      Yields (Grammar.queryAbove (level b 48)) (kw "WITH" :: xs) o)
    (ho : ∀ p ∈ o, p.2 = []) : parse sql = .ok (o.map fun p => [.query p.1]) := by
  have hlength : xs.length + 1 ≤ ts.length := by
    have := List.length_filter_le (fun t => !t.isBlank) ts
    rwa [show ts.filter (fun t => !t.isBlank) = kw "WITH" :: xs from hvisible] at this
  obtain ⟨b, hb⟩ : ∃ b, ts.length = b + 1 := ⟨ts.length - 1, by omega⟩
  have hstatement : Yields (Grammar.ofDepth (ts.length + 1) maxDepth).statement (kw "WITH" :: xs)
      (o.map fun p => (.query p.1, p.2)) :=
    reads_peek.bind (.ite_pos rfl (hquery (Nat.lt_succ_of_le hlength)).bind_pure)
  have hrest : ∀ p ∈ o.map fun p => (Statement.query p.1, p.2), p.2 = [] := by
    intro p hp
    obtain ⟨p', hp', rfl⟩ := Option.map_eq_some_iff.1 hp
    exact ho p' hp'
  have hall := yields_statements (b := b) rfl hstatement hrest
  rw [show b + 2 = ts.length + 1 by omega] at hall
  obtain ⟨o', hrun, ho'⟩ := hall ts hvisible
  have hread : parse sql = .ok (o'.map (·.1)) := by
    rw [parse, htokens]
    simp only [statementsOf, hrun]
    rfl
  have hfirst : o'.map (·.1) = o.map fun p => [.query p.1] := by
    have := congrArg (Option.map Prod.fst) ho'
    simpa [Option.map_map, Function.comp_def] using this
  rw [hread, hfirst]

end

end SemanticLayer.Sql
