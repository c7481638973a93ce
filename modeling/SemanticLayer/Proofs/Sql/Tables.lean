import SemanticLayer.Proofs.Sql.Expressions

/-
# Reading tables

`IsTable`, `IsJoin` and `IsSource` say that tokens are read as a table, as a
join with its first word, and as a table with what is joined to it, before what
ends each of them.  A name without `AS` is taken for the name of a table unless
it is reserved, so what ends a table are reserved words and symbols.
-/

namespace SemanticLayer.Sql

open Reader SemanticLayer.Sql.Inner

/-- The tokens that end a table with what is joined to it. -/
def sourceEnders : List Token :=
  [.symbol ")", .symbol ",", kw "WHERE", kw "GROUP", kw "ORDER", kw "UNION"]

/-- The tokens that end a joined table. -/
def joinEnders : List Token := [kw "LEFT", kw "CROSS"] ++ sourceEnders

/-- The tokens that end a table. -/
def tableEnders : List Token := kw "ON" :: joinEnders

theorem joinEnders_subset : joinEnders ⊆ enders := by simp [joinEnders, sourceEnders, enders]

theorem tableEnders_subset : tableEnders ⊆ followers := by
  simp [tableEnders, joinEnders, sourceEnders, followers, enders]

/-- Whether a token names nothing unless `AS` stands before it. -/
def isReserved (reserved : List String) : Token → Bool
  | .word _ none k => reserved.contains k
  | .symbol _ => true
  | _ => false

section

variable {h : Nat} {xs rest : List Token} {n : Name} {reserved : List String}

/-! ### Names -/

theorem reads_newName : Reads (newName? reserved) (kw "AS" :: n.token :: rest) (some n) rest := by
  refine (reads_takes (isKeyword_kw "AS")).bind (reads_peek.bind ?_)
  obtain ⟨v, q⟩ := n
  cases q with
  | none => exact .ite_pos (.inl rfl) (reads_skip.bind (.pure _))
  | some q => exact reads_skip.bind (.pure _)

theorem reads_newName_not (has : headIs (·.isKeyword "AS") rest = false)
    (hrest : ∀ t ∈ rest.head?, isReserved reserved t = true) :
    Reads (newName? reserved) rest none rest := by
  refine (reads_takes_not has).bind (reads_peek.bind ?_)
  cases rest with
  | nil => exact .ite_neg (by simp) (.pure none)
  | cons t rest =>
    have ht := hrest t rfl
    unfold isReserved at ht
    split at ht
    · refine .ite_neg ?_ (.pure none)
      rintro (h | h)
      · cases h
      · exact h ht
    · exact .ite_neg nofun (.pure none)
    · cases ht

/-- What ends a table is no name of it, and says nothing more about it. -/
theorem tableEnders_final : ∀ t ∈ tableEnders, isReserved tableReserved t = true ∧
    t.isKeyword "AS" = false := by
  decide

theorem reads_tableAlias {i : Inner} (hrest : Follows tableEnders rest) (called : Option Name) :
    Reads i.tableAlias (clauseTokens [kw "AS"] (called.map fun n => [n.token]) ++ rest)
      (called.map fun n => ⟨n, []⟩) rest := by
  have hfollows := hrest.mono tableEnders_subset
  cases called with
  | none =>
    exact (reads_newName_not (hrest.headIs fun t ht => (tableEnders_final t ht).2)
      fun t ht => (tableEnders_final t (hrest t ht)).1).bind (.pure none)
  | some n =>
    refine reads_newName.bind (Yields.bind (Yields.bind_false ?_ (.pure [])) (.pure _))
    have hopen : Reads (seesSymbol "(") rest (headIs (isSymbol "(") rest) rest :=
      reads_seesSymbol "("
    rwa [hfollows.seesSymbol_not (by simp [furtherSymbols])] at hopen

/-! ### Tables -/

/-- The tokens `xs` are the table `t`, before whatever ends it. -/
def IsTable (h : Nat) (xs : List Token) (t : Factor) : Prop :=
  ∀ ⦃b d : Nat⦄ ⦃rest : List Token⦄, h ≤ d → xs.length < b → Follows tableEnders rest →
    Reads (table (level b d) b) (xs ++ rest) t rest

theorem reads_keywordTable_none {i : Inner} (hxs : headIs (isAmong tableWords) xs = false) :
    Reads i.keywordTable xs none xs := by
  have hnot : ∀ k ∈ tableWords, headIs (·.isKeyword k) xs = false := fun k hk =>
    headIs_of_imp (fun _ => not_isKeyword_of_not_isAmong hk) hxs
  refine .bind_false (reads_takes_not (hnot _ (by simp [tableWords]))) ?_
  refine .bind_false (reads_takes_not (hnot _ (by simp [tableWords]))) ?_
  refine .bind_false (reads_takes_not (hnot _ (by simp [tableWords]))) ?_
  refine (reads_ahead 2).bind ?_
  have hdocument := hnot "JSON_TABLE" (by simp [tableWords])
  rcases xs with _ | ⟨t, _ | ⟨s, more⟩⟩
  · exact .pure none
  · exact .pure none
  · refine .ite_neg (fun hts => ?_) (.pure none)
    have ht : t.isKeyword "JSON_TABLE" = false := hdocument
    rw [ht] at hts
    exact Bool.false_ne_true hts.1

theorem reads_turned {i : Inner} {t : Factor} (hrest : Follows followers rest) :
    Reads (i.turned t) rest t rest := by
  refine reads_repeated_none ?_
  refine .bind_false (reads_takes_not (hrest.sees_not (by simp [furtherWords]))) ?_
  exact .bind_false (reads_takes_not (hrest.sees_not (by simp [furtherWords]))) (.pure none)

theorem reads_hints_none {i : Inner} (hrest : Follows followers rest) :
    Reads i.hints rest [] rest := by
  have hwith : headIs (·.isKeyword "WITH") rest = false := hrest.sees_not (by simp [furtherWords])
  refine (reads_ahead 2).bind ?_
  rcases rest with _ | ⟨t, _ | ⟨s, more⟩⟩
  · exact .pure []
  · exact .pure []
  · refine .ite_neg (fun hts => ?_) (.pure [])
    have ht : t.isKeyword "WITH" = false := hwith
    rw [ht] at hts
    exact Bool.false_ne_true hts.1

/-- **A table by its name,** with a name given to it if there is one. -/
theorem isTable_named (hn : n.Free) (path : List Name) (called : Option Name) :
    IsTable 0 (between "." ((n :: path).map fun m => [m.token]) ++
        clauseTokens [kw "AS"] (called.map fun m => [m.token]))
      (.table (n :: path) (called.map fun m => ⟨m, []⟩)) := by
  intro b d rest _ hb hrest
  obtain ⟨c, rfl⟩ : ∃ c, b = c + 1 := ⟨b - 1, by omega⟩
  have hafter : Follows followers
      (clauseTokens [kw "AS"] (called.map fun m => [m.token]) ++ rest) := by
    cases called with
    | none => exact hrest.mono tableEnders_subset
    | some m => exact .cons (by simp [followers, enders])
  have hdot := hafter.seesSymbol_not (s := ".") (by simp [furtherSymbols])
  have hopen := hafter.seesSymbol_not (s := "(") (by simp [furtherSymbols])
  have hlen : (n :: path).length ≤ c + 1 := by
    rw [List.length_append, between_dots, List.length_cons, length_dots] at hb
    rw [List.length_cons]
    omega
  have hpath := reads_path (List.cons_ne_nil n path) hlen hdot
  have hkeyword : Reads (level (c + 1) d).keywordTable
      (between "." ((n :: path).map fun m => [m.token]) ++
        (clauseTokens [kw "AS"] (called.map fun m => [m.token]) ++ rest)) none
      (between "." ((n :: path).map fun m => [m.token]) ++
        (clauseTokens [kw "AS"] (called.map fun m => [m.token]) ++ rest)) := by
    refine reads_keywordTable_none ?_
    rw [between_dots]
    exact n.not_isAmong hn.table
  have hnoOpen : headIs (isSymbol "(") (between "." ((n :: path).map fun m => [m.token]) ++
      (clauseTokens [kw "AS"] (called.map fun m => [m.token]) ++ rest)) = false := by
    rw [between_dots]
    rfl
  have hnamed : Reads (level (c + 1) d).namedTable
      (between "." ((n :: path).map fun m => [m.token]) ++
        (clauseTokens [kw "AS"] (called.map fun m => [m.token]) ++ rest))
      (.table (n :: path) (called.map fun m => ⟨m, []⟩)) rest := by
    refine hpath.bind (.bind_false (reads_takesSymbol_not hopen) (.bind (.pure []) ?_))
    refine (reads_phrase_not (hafter.sees_not (by simp [furtherWords]))).bind ?_
    refine (reads_tableAlias hrest called).bind
      ((reads_hints_none (hrest.mono tableEnders_subset)).bind ?_)
    exact .ite_pos (by simp) (.pure _)
  rw [List.append_assoc]
  exact hkeyword.bind (.bind_false (reads_takesSymbol_not hnoOpen)
    (hnamed.bind (reads_turned (hrest.mono tableEnders_subset))))

/-- **A query in brackets,** with a name given to it. -/
theorem isTable_derived {q : Query} (hq : IsQuery h xs q) (n : Name) :
    IsTable (h + 1) (.symbol "(" :: (xs ++ [.symbol ")", kw "AS", n.token]))
      (.derived false q (some ⟨n, []⟩)) := by
  intro b d rest hd hb hrest
  simp only [List.length_cons, List.length_append] at hb
  obtain ⟨c, rfl⟩ : ∃ c, b = c + 1 := ⟨b - 1, by omega⟩
  simp only [List.cons_append, List.append_assoc, List.nil_append]
  have hderived : Reads ((level (c + 1) d).derivedTable false)
      (xs ++ .symbol ")" :: kw "AS" :: n.token :: rest) (.derived false q (some ⟨n, []⟩)) rest :=
    (hq.reads_nested hd (by omega)).bind (reads_symbol.bind
      ((reads_tableAlias hrest (some n)).bind (.pure _)))
  exact (reads_keywordTable_none rfl).bind (.bind_true reads_takesSymbol (hderived.attempt.bind
    (reads_turned (hrest.mono tableEnders_subset))))

/-! ### Joins -/

/-- The tokens `xs` are the join `j`, before whatever ends it. -/
structure IsJoin (h : Nat) (xs : List Token) (j : Join) : Prop where
  reads {b d : Nat} {rest : List Token} (hd : h < d) (hb : xs.length < b)
    (hrest : Follows joinEnders rest) :
    Reads (join (level b d) (table (level b d) b)) (xs ++ rest) (some j) rest
  start : ∃ t more, xs = t :: more ∧ t ∈ joinEnders

theorem IsJoin.mono {h' : Nat} {j : Join} (hj : IsJoin h xs j) (hh : h ≤ h') : IsJoin h' xs j where
  reads hd hb hrest := hj.reads (Nat.lt_of_le_of_lt hh hd) hb hrest
  start := hj.start

theorem isJoin_cross {t : Factor} (ht : IsTable h xs t) :
    IsJoin h (kw "CROSS" :: kw "JOIN" :: xs) (.mk "CROSS JOIN" t .free) where
  reads {b d rest} hd hb hrest := by
    simp only [List.length_cons] at hb
    have hwords :
        (if false = true then "GLOBAL " else "") ++ "CROSS " ++ "JOIN" = "CROSS JOIN" := by
      decide
    have htable := ht (b := b) (Nat.le_of_lt hd) (by omega) (hrest.mono (List.subset_cons_self _ _))
    rw [← hwords]
    exact (reads_takes_not rfl).bind (.bind_true (reads_takes (isKeyword_kw "CROSS"))
      ((reads_oneOf (by simp)).bind (htable.bind (.pure _))))
  start := ⟨_, _, rfl, by simp [joinEnders]⟩

/-- **A table is joined as far as its condition can be read.** -/
theorem yields_leftJoin {b d : Nat} {t : Factor} {ys : List Token} {o : Option (Expr × List Token)}
    (ht : IsTable h xs t) (hd : h ≤ d) (hb : xs.length < b)
    (hcondition : Yields (level b d).whole ys o) :
    Yields (join (level b d) (table (level b d) b))
      (kw "LEFT" :: kw "JOIN" :: (xs ++ kw "ON" :: ys))
      (o.map fun p => (some (.mk "LEFT JOIN" t (.on p.1)), p.2)) := by
  have hwords : (if false = true then "GLOBAL " else "") ++ ("LEFT" ++ " JOIN") = "LEFT JOIN" := by
    decide
  have hends : Follows tableEnders (kw "ON" :: ys) := .cons (by simp [tableEnders])
  have htable := ht hd hb hends
  have hon : Yields (level b d).joinCondition (kw "ON" :: ys) (o.map fun p => (.on p.1, p.2)) :=
    .bind_true (reads_takes (isKeyword_kw "ON")) hcondition.bind_pure
  have hjoinWords : Reads joinWords (kw "LEFT" :: kw "JOIN" :: (xs ++ kw "ON" :: ys))
      (some ("LEFT" ++ " JOIN")) (xs ++ kw "ON" :: ys) :=
    (reads_takesOneOf (by simp)).bind ((reads_takesOneOf (by simp)).bind (.pure _))
  rw [← hwords]
  refine (reads_takes_not rfl).bind (.bind_false (reads_takes_not rfl)
    (.bind_false (reads_takes_not rfl) (.bind_false (reads_takes_not rfl) ?_)))
  refine (reads_takes_not rfl).bind (hjoinWords.bind (htable.bind (.ite_neg nofun ?_)))
  cases o with
  | none => exact hon.bind_refuses
  | some p => exact hon.bind (.pure _)

theorem isJoin_left {t : Factor} {ys : List Token} {e : Expr} (ht : IsTable h xs t)
    (he : IsExpr h 0 ys e) :
    IsJoin h (kw "LEFT" :: kw "JOIN" :: (xs ++ kw "ON" :: ys)) (.mk "LEFT JOIN" t (.on e)) where
  reads {b d rest} hd hb hrest := by
    simp only [List.length_cons, List.length_append] at hb
    have hcondition := he.reads_whole (b := b) hd (by omega) (hrest.mono joinEnders_subset)
    simp only [List.cons_append, List.append_assoc]
    exact yields_leftJoin ht (Nat.le_of_lt hd) (by omega) hcondition
  start := ⟨_, _, rfl, by simp [joinEnders]⟩

/-! ### Tables with what is joined to them -/

/-- The tokens `xs` are the table with joins `s`, before whatever ends it. -/
def IsSource (h : Nat) (xs : List Token) (s : Source) : Prop :=
  ∀ ⦃b d : Nat⦄ ⦃rest : List Token⦄, h < d → xs.length < b → Follows sourceEnders rest →
    Reads (level b d).source (xs ++ rest) s rest

/-- No join starts with what ends a table with its joins. -/
theorem sourceEnders_final : ∀ t ∈ sourceEnders,
    isAmong (["CROSS", "GLOBAL", "OUTER", "ASOF", "NATURAL"] ++
      ["INNER", "JOIN", "LEFT", "RIGHT", "FULL"]) t = false := by
  decide

theorem reads_join_none {i : Inner} {r : Reader Factor} (hrest : Follows sourceEnders rest) :
    Reads (i.join r) rest none rest := by
  have hfinal := hrest.headIs sourceEnders_final
  have hnot : ∀ k ∈ ["CROSS", "GLOBAL", "OUTER", "ASOF", "NATURAL"],
      headIs (·.isKeyword k) rest = false := fun k hk =>
    headIs_of_imp (fun _ => not_isKeyword_of_not_isAmong (List.mem_append_left _ hk)) hfinal
  have hwords : Reads joinWords rest none rest :=
    (reads_takesOneOf_not
      (headIs_of_imp (fun _ => not_isAmong_of_subset (List.subset_append_right _ _)) hfinal)).bind
      (.pure none)
  refine (reads_takes_not (hnot _ (by simp))).bind (.bind_false (reads_takes_not (hnot _ (by simp)))
    (.bind_false (reads_takes_not (hnot _ (by simp)))
      (.bind_false (reads_takes_not (hnot _ (by simp))) ?_)))
  exact (reads_takes_not (hnot _ (by simp))).bind (hwords.bind (.ite_neg nofun (.pure none)))

/-- **A table with what is joined to it.** -/
theorem isSource {t : Factor} {jss : List (List Token)} {js : List Join} (ht : IsTable h xs t)
    (hjs : List.Forall₂ (IsJoin h) jss js) : IsSource h (xs ++ jss.flatten) (.mk t js) := by
  intro b d rest hd hb hrest
  rw [List.length_append] at hb
  have hjoinRest : Follows joinEnders rest := hrest.mono (List.subset_append_right _ _)
  have hstarts : ∀ ys ∈ jss, ∃ t more, ys = t :: more ∧ t ∈ joinEnders := by
    clear hb
    induction hjs with
    | nil => nofun
    | cons hj _ ih => exact List.forall_mem_cons.2 ⟨hj.start, ih⟩
  have hfollows : ∀ ys ∈ jss, ∀ rest, Follows joinEnders (ys ++ rest) := by
    intro ys hys rest
    obtain ⟨t, more, rfl, ht⟩ := hstarts ys hys
    exact .cons ht
  have hlengths : ∀ ys ∈ jss, ys.length < b := fun ys hys => by
    have := (List.sublist_flatten_of_mem hys).length_le
    omega
  have hcount : jss.length ≤ jss.flatten.length := by
    clear hb hlengths hfollows hjs
    induction jss with
    | nil => exact Nat.zero_le _
    | cons ys jss ih =>
      obtain ⟨t, more, rfl, -⟩ := hstarts ys List.mem_cons_self
      have := ih fun zs hzs => hstarts zs (List.mem_cons_of_mem _ hzs)
      simp only [List.length_cons, List.flatten_cons, List.length_append]
      omega
  have hfirst : Follows tableEnders (jss.flatten ++ rest) := by
    cases jss with
    | nil => exact hjoinRest.mono (List.subset_cons_self _ _)
    | cons ys jss =>
      rw [List.flatten_cons, List.append_assoc]
      exact (hfollows ys List.mem_cons_self _).mono (List.subset_cons_self _ _)
  have hmany :
      Reads (many (join (level b d) (table (level b d) b)) b) (jss.flatten ++ rest) js rest := by
    refine reads_many (F := Follows joinEnders) ?_ hfollows hjoinRest (reads_join_none hrest)
      (by omega)
    refine ((List.forall₂_and_left _ _).2 ⟨hlengths, hjs⟩).imp ?_
    intro ys j hj rest hrest
    exact hj.2.reads hd hj.1 hrest
  rw [List.append_assoc]
  exact (ht (Nat.le_of_lt hd) (by omega) hfirst).bind (hmany.bind (.pure _))

/-- A table is not read with a join that cannot be read. -/
theorem refuses_source {b d : Nat} {t : Factor} {ys : List Token} (ht : IsTable h xs t) (hd : h ≤ d)
    (hb : xs.length < b) (hys : Follows tableEnders ys)
    (hjoin : Refuses (join (level b d) (table (level b d) b)) ys) :
    Refuses (level b d).source (xs ++ ys) := by
  have hmany : Refuses (many (join (level b d) (table (level b d) b)) b) ys := by
    obtain ⟨c, rfl⟩ : ∃ c, b = c + 1 := ⟨b - 1, by omega⟩
    exact hjoin.bind_refuses
  exact (ht hd hb hys).bind hmany.bind_refuses

end

end SemanticLayer.Sql
