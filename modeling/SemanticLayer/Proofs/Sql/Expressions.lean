import SemanticLayer.Proofs.Sql.Operands

/-
# Reading operators

`IsLeft h least p n xs e` says that the tokens `xs` are read as the left side
`e` of what follows them, with `n` operators on the way of which the last binds
at `p`.  An operand is a left side with no operators; an operator with a right
side makes a left side of another, and every left side is an expression.

| operator | binds at | right side |
| --- | ---: | --- |
| `/` | 90 | binds more tightly |
| `BETWEEN`, `IN` | 60 | binds more tightly, or is in brackets |
| `=` | 50 | binds more tightly |
| `IS NOT DISTINCT FROM` | 40 | a whole expression |
| `AND` | 20 | binds more tightly |

The right side of `IS NOT DISTINCT FROM` takes in all that follows, so a chain
of such tests nests to the right, two levels for each (`isExpr_tests`).  Where
fewer levels are left, the chain cannot be read (`refuses_tests`).
-/

namespace SemanticLayer.Sql

open Reader SemanticLayer.Sql.Inner

/-- The tokens `xs` are the left side `e` of what follows them. -/
structure IsLeft (h least p n : Nat) (xs : List Token) (e : Expr) : Prop where
  count : n ≤ xs.length
  reads {b d k : Nat} {rest : List Token} {o : Option (Expr × List Token)} (hd : h ≤ d)
    (hb : xs.length < b) (hrest : Ends p rest)
    (ho : Yields (operators (level b d) least k e) rest o) :
    Yields (operand (level b d) b >>= operators (level b d) least (k + n)) (xs ++ rest) o
  unnamed {rest : List Token} (hrest : Follows followers rest) : Unnamed (xs ++ rest)
  start (rest : List Token) : headIs (isAmong leadWords) (xs ++ rest) = false

section

variable {h h' least p n : Nat} {xs ys rest : List Token} {e l r : Expr}

theorem IsOperand.mono (he : IsOperand h xs e) (hh : h ≤ h') : IsOperand h' xs e where
  reads hd hb hrest := he.reads (Nat.le_trans hh hd) hb hrest
  unnamed := he.unnamed
  start := he.start

theorem IsExpr.mono (he : IsExpr h least xs e) (hh : h ≤ h') : IsExpr h' least xs e where
  reads hd hb hrest := he.reads (Nat.le_trans hh hd) hb hrest
  unnamed := he.unnamed
  start := he.start

theorem IsOperand.isLeft (he : IsOperand h xs e) : IsLeft h least p 0 xs e where
  count := Nat.zero_le _
  reads hd hb hrest ho := (he.reads hd hb hrest.1).bind ho
  unnamed := he.unnamed
  start := he.start

/-- **A left side is an expression** if nothing binds more tightly behind it. -/
theorem IsLeft.isExpr (he : IsLeft h least p n xs e) (hp : least ≤ p) : IsExpr h least xs e where
  reads {b d rest} hd hb hrest := by
    have hn := he.count
    obtain ⟨k, rfl⟩ : ∃ k, b = k + 1 + n := ⟨b - 1 - n, by omega⟩
    exact he.reads hd hb ⟨hrest.1, fun t ht => Nat.le_trans (hrest.2 t ht) hp⟩
      (reads_operators_end hrest (Nat.succ_pos k))
  unnamed hrest := he.unnamed (hrest.mono (List.subset_append_right _ _))
  start := he.start

/-- **An operator makes a left side of another,** given what becomes of its own left side. -/
theorem IsLeft.step {t : Token} {q : Nat} (hl : IsLeft h least p n xs l) (ht : t ∈ followers)
    (hq : binding [t] = q) (hleast : least < q) (hp : q ≤ p)
    (htail : ∀ {b d : Nat} {rest : List Token}, h ≤ d → (t :: ys).length < b → Ends q rest →
      Reads (infixOf (level b d) l q) (t :: (ys ++ rest)) e rest) :
    IsLeft h least q (n + 1) (xs ++ t :: ys) e where
  count := by
    have := hl.count
    rw [List.length_append, List.length_cons]
    omega
  reads {b d k rest o} hd hb hrest ho := by
    rw [List.length_append] at hb
    have hends : Ends p (t :: (ys ++ rest)) := by
      refine ⟨.cons ht, ?_⟩
      rintro _ ⟨⟩
      rwa [hq]
    have hstep : Yields (operators (level b d) least (k + 1) l) (t :: (ys ++ rest)) o := by
      refine (reads_ahead 3).bind ?_
      rw [binding_take ht, hq]
      exact .ite_pos hleast ((htail hd (by omega) hrest).bind ho)
    rw [List.append_assoc, Nat.add_comm n, ← Nat.add_assoc]
    exact hl.reads hd (by omega) hends hstep
  unnamed {rest} hrest := by
    rw [List.append_assoc]
    exact hl.unnamed (.cons ht)
  start rest := by
    rw [List.append_assoc]
    exact hl.start _

/-! ### Operators between two operands -/

/-- The operators that are read with all that binds more tightly, with their tokens. -/
def binaryOperators : List (String × Token × Nat) :=
  [("=", .symbol "=", 50), ("/", .symbol "/", 90), ("AND", kw "AND", 20)]

theorem yields_rightSide {i : Inner} (operator : String) {o : Option (Expr × List Token)}
    (hright : headIs (isAmong leadWords) xs = false) (hr : Yields (i.expr p) xs o) :
    Yields (i.rightSide l operator p) xs (o.map fun r => (.binary l operator r.1, r.2)) := by
  have hany : headIs (isAmong ["ANY", "ALL"]) xs = false :=
    headIs_of_imp (fun _ => not_isAmong_of_subset (by simp [leadWords])) hright
  exact (reads_takesOneOf_not hany).bind hr.bind_pure

theorem yields_infixOf {i : Inner} {operator : String} {t : Token} {q : Nat}
    {o : Option (Expr × List Token)} (hop : (operator, t, q) ∈ binaryOperators)
    (hright : Yields (i.rightSide l operator q) xs o) : Yields (i.infixOf l q) (t :: xs) o := by
  simp only [binaryOperators, List.mem_cons, List.not_mem_nil, or_false, Prod.mk.injEq] at hop
  rcases hop with ⟨rfl, rfl, rfl⟩ | ⟨rfl, rfl, rfl⟩ | ⟨rfl, rfl, rfl⟩
  · have hsame : canonical "=" = "=" := by simp [canonical]
    refine reads_peek.bind (reads_skip.bind (.ite_neg (by simp) (.ite_neg (by simp)
      (.ite_neg (by simp) ?_))))
    rwa [hsame]
  · have hsame : canonical "/" = "/" := by simp [canonical]
    refine reads_peek.bind (reads_skip.bind (.ite_neg (by simp) (.ite_neg (by simp)
      (.ite_neg (by simp) ?_))))
    rwa [hsame]
  · exact reads_peek.bind (.ite_pos (.inl rfl) (reads_skip.bind hright))

/-- **An operator between two operands.** -/
theorem IsLeft.binary {operator : String} {t : Token} {q : Nat} (hl : IsLeft h least p n xs l)
    (hop : (operator, t, q) ∈ binaryOperators) (hr : IsExpr h' q ys r) (hh : h' < h)
    (hleast : least < q) (hp : q ≤ p) :
    IsLeft h least q (n + 1) (xs ++ t :: ys) (.binary l operator r) := by
  have htable : ∀ o ∈ binaryOperators, o.2.1 ∈ followers ∧ binding [o.2.1] = o.2.2 := by
    decide
  obtain ⟨ht, hq⟩ := htable _ hop
  refine hl.step ht hq hleast hp fun hd hb hrest => yields_infixOf hop ?_
  exact yields_rightSide _ (hr.start _)
    (hr.reads_nested (Nat.lt_of_lt_of_le hh hd) (Nat.lt_of_succ_lt hb) hrest)

/-- A word that is no operator of another kind starts one that binds like `BETWEEN`. -/
theorem yields_likeOf {i : Inner} {k : String} {o : Option (Expr × List Token)}
    (hk : k ∉ ["AND", "OR", "XOR", "OPERATOR", "IS", "AT"])
    (hlike : Yields (i.likeOf l) (kw k :: xs) o) : Yields (i.infixOf l p) (kw k :: xs) o := by
  simp only [List.mem_cons, List.not_mem_nil, or_false, not_or] at hk
  refine reads_peek.bind (.ite_neg ?_ (.ite_neg ?_ (.ite_neg ?_ (.ite_neg ?_ hlike))))
  · simp [hk]
  · simp [hk]
  · simp [hk]
  · simp [hk]

/-- **A range.** -/
theorem IsLeft.between {zs : List Token} {low high : Expr} (hl : IsLeft h least p n xs l)
    (hlow : IsExpr h' 60 ys low) (hhigh : IsExpr h' 60 zs high) (hh : h' < h)
    (hleast : least < 60) (hp : 60 ≤ p) :
    IsLeft h least 60 (n + 1) (xs ++ kw "BETWEEN" :: (ys ++ kw "AND" :: zs))
      (.between false l low high) := by
  refine hl.step (by simp [followers])
    (by decide) hleast hp fun {b d rest} hd hb hrest => ?_
  simp only [List.length_cons, List.length_append] at hb
  have hand : Ends 60 (kw "AND" :: (zs ++ rest)) :=
    ⟨.cons (by simp [followers]), by rintro t ⟨⟩; decide⟩
  have hlow := hlow.reads_nested (Nat.lt_of_lt_of_le hh hd) (b := b) (by omega) hand
  have hhigh := hhigh.reads_nested (Nat.lt_of_lt_of_le hh hd) (b := b) (by omega) hrest
  refine yields_likeOf (by simp) ((reads_takes_not rfl).bind
    ((reads_takesOneOf (by simp [likeWords])).bind ?_))
  rw [List.append_assoc]
  exact hlow.bind ((reads_keyword (isKeyword_kw "AND")).bind (hhigh.bind (.pure _)))

/-- **One of some texts.** -/
theorem IsLeft.inTexts (hl : IsLeft h least p n xs l) {vs : List String} (hne : vs ≠ [])
    (hh : 0 < h) (hleast : least < 60) (hp : 60 ≤ p) :
    IsLeft h least 60 (n + 1)
      (xs ++ kw "IN" :: .symbol "(" ::
        (Reader.between "," (vs.map fun v => [.text v]) ++ [.symbol ")"]))
      (.inList false l (vs.map .text)) := by
  refine hl.step (by simp [followers])
    (by decide) hleast hp fun {b d rest} hd hb hrest => ?_
  simp only [List.length_cons, List.length_append] at hb
  have htexts : Reads (level b d).exprs
      (Reader.between "," (vs.map fun v => [.text v]) ++ .symbol ")" :: rest) (vs.map .text)
      (.symbol ")" :: rest) := by
    refine reads_list (b := b) (by simp [enders]) ?_ (by omega) (by simpa using hne)
      (Follows.cons (s := enders) (by simp [enders])) rfl
    refine List.forall₂_map_left_iff.2 (List.forall₂_map_right_iff.2 (List.forall₂_same.2 ?_))
    exact fun v _ rest hb hrest =>
      (isOperand_text v).isExpr.reads_whole (Nat.lt_of_lt_of_le hh hd) hb hrest
  have hnoQuery : headIs (isAmong ["SELECT", "WITH"])
      (Reader.between "," (vs.map fun v => [.text v]) ++ .symbol ")" :: rest) = false := by
    obtain ⟨v, vs, rfl⟩ := List.exists_cons_of_ne_nil hne
    cases vs <;> rfl
  refine yields_likeOf (by simp) ((reads_takes_not rfl).bind
    ((reads_takesOneOf (by simp [likeWords])).bind (.bind_false (reads_takes_not rfl) ?_)))
  rw [List.cons_append, List.append_assoc, List.singleton_append]
  refine reads_bracketed ((reads_seesOneOf _).bind ?_)
  rw [hnoQuery]
  exact htexts.bind (.pure _)

/-- **A conjunction of conditions.** -/
theorem IsLeft.conjunction {yss : List (List Token)} {rs : List Expr} (hl : IsLeft h 0 p n xs l)
    (hp : 20 ≤ p) (hrs : List.Forall₂ (IsExpr h' 20) yss rs) (hh : h' < h) :
    IsExpr h 0 (xs ++ yss.flatMap (kw "AND" :: ·)) (rs.foldl (fun l r => .binary l "AND" r) l) := by
  induction hrs generalizing xs l n p with
  | nil => simpa using hl.isExpr (Nat.zero_le _)
  | @cons ys r yss rs hr hrs ih =>
    have hand :=
      hl.binary (by simp [binaryOperators] : ("AND", kw "AND", 20) ∈ binaryOperators) hr hh
      (by decide) hp
    have := ih hand (Nat.le_refl 20)
    simpa using this

/-! ### Tests that take in what follows -/

/-- Tests whether two operands are the same, each with `AND` before it. -/
def testTokens (tests : List (List Token × List Token)) : List Token :=
  tests.flatMap fun (left, right) =>
    kw "AND" :: (left ++ kw "IS" :: kw "NOT" :: kw "DISTINCT" :: kw "FROM" :: right)

/-- Nothing binds more tightly behind an operand than the first of such tests. -/
theorem ends_testTokens (tests : List (List Token × List Token)) (hrest : Follows enders rest)
    (hp : 20 ≤ p) : Ends p (testTokens tests ++ rest) := by
  cases tests with
  | nil => exact hrest.ends p
  | cons t tests =>
    refine ⟨.cons (by simp [followers]), ?_⟩
    rintro _ ⟨⟩
    exact Nat.le_trans (by decide) hp

/-- What is read of such tests behind another condition: each takes in the ones behind it. -/
def readTests (condition : Expr) : List (Expr × Expr) → Expr
  | [] => condition
  | (left, right) :: more => .binary condition "AND" (.distinct true left (readTests right more))

theorem yields_isTest {i : Inner} {o : Option (Expr × List Token)} (h : Yields i.whole xs o) :
    Yields (i.infixOf l 40) (kw "IS" :: kw "NOT" :: kw "DISTINCT" :: kw "FROM" :: xs)
      (o.map fun p => (.distinct true l p.1, p.2)) := by
  have htest : Yields (i.isTest l) (kw "NOT" :: kw "DISTINCT" :: kw "FROM" :: xs)
      (o.map fun p => (.distinct true l p.1, p.2)) :=
    (reads_takes (isKeyword_kw "NOT")).bind ((reads_takesOneOf (by simp)).bind
      ((reads_keyword (isKeyword_kw "FROM")).bind h.bind_pure))
  exact reads_peek.bind
    (.ite_neg (by simp) (.ite_neg (by simp) (.ite_pos rfl (reads_skip.bind htest))))

/-- An operator whose right side takes in all that follows, if it can be read. -/
theorem yields_operators {i : Inner} {b q : Nat} {t : Token} {o : Option (Expr × List Token)}
    (ht : t ∈ followers) (hq : binding [t] = q) (hleast : least < q)
    (h : Yields (i.infixOf l q) (t :: xs) o) (ho : ∀ p ∈ o, Follows enders p.2) (hb : 1 < b) :
    Yields (operators i least b l) (t :: xs) o := by
  obtain ⟨b, rfl⟩ : ∃ m, b = m + 2 := ⟨b - 2, by omega⟩
  refine (reads_ahead 3).bind ?_
  rw [binding_take ht, hq]
  refine .ite_pos hleast ?_
  cases o with
  | none => exact h.bind_refuses
  | some p => exact h.bind (reads_operators_end ((ho p rfl).ends least) (Nat.succ_pos b))

/-- Behind what is read stands what stood there. -/
theorem follows_of_mem_ite {e : Expr} {p : Prop} [Decidable p] (hrest : Follows enders rest) :
    ∀ x ∈ if p then some (e, rest) else none, Follows enders x.2 := by
  intro x hx
  split at hx
  · cases hx
    exact hrest
  · cases hx

/-- The right side of `AND` is a test whose own right side takes in all that follows: it takes two
levels more than what follows. -/
theorem yields_test {b d n : Nat} {left right more : List Token} {l r e : Expr}
    (hleft : IsOperand 0 left l) (hright : IsOperand 0 right r)
    (hlength : left.length + right.length + 2 < b) (hfollowed : Follows followers (more ++ rest))
    (hrest : Follows enders rest)
    (hmore : ∀ d, Yields (operators (level b d) 0 b r) (more ++ rest)
      (if n ≤ d then some (e, rest) else none)) :
    Yields ((level b d).expr 20)
      (left ++ kw "IS" :: kw "NOT" :: kw "DISTINCT" :: kw "FROM" :: (right ++ (more ++ rest)))
      (if n + 1 < d then some (.distinct true l e, rest) else none) := by
  have hbinding : binding [kw "IS"] = 40 := by decide
  have hwhole : ∀ d, Yields (level b d).whole (right ++ (more ++ rest))
      (if n < d then some (e, rest) else none) := by
    intro d
    cases d with
    | zero => exact .failure
    | succ d =>
      simp only [Nat.lt_succ_iff]
      exact (hright.reads (Nat.zero_le d) (by omega) hfollowed).bind (hmore d)
  cases d with
  | zero => exact .failure
  | succ d =>
    have htest := yields_isTest (l := l) (hwhole d)
    rw [apply_ite (Option.map _), Option.map_some, Option.map_none] at htest
    simp only [Nat.succ_lt_succ_iff]
    exact (hleft.reads (Nat.zero_le d) (by omega) (.cons (by simp [followers]))).bind
      (yields_operators (by simp [followers]) hbinding (by decide) htest
        (follows_of_mem_ite hrest) (show 1 < b by omega))

/-- **A chain of tests takes two levels for each test,** and cannot be read with fewer. -/
theorem yields_tests {b d k : Nat} {tests : List (List Token × List Token)}
    {es : List (Expr × Expr)} {c : Expr}
    (h : List.Forall₂ (fun t e => IsOperand 0 t.1 e.1 ∧ IsOperand 0 t.2 e.2) tests es)
    (hb : (testTokens tests).length < b) (hk : 1 < k) (hrest : Follows enders rest) :
    Yields (operators (level b d) 0 k c) (testTokens tests ++ rest)
      (if 2 * tests.length ≤ d then some (readTests c es, rest) else none) := by
  induction h generalizing c d k with
  | nil => exact reads_operators_end (hrest.ends 0) (Nat.zero_lt_of_lt hk)
  | @cons t e tests es ht hts ih =>
    obtain ⟨left, right⟩ := t
    obtain ⟨l, r⟩ := e
    have hleft : IsOperand 0 left l := ht.1
    have hright : IsOperand 0 right r := ht.2
    have htokens : testTokens ((left, right) :: tests) ++ rest =
        kw "AND" :: (left ++ kw "IS" :: kw "NOT" :: kw "DISTINCT" :: kw "FROM" ::
          (right ++ (testTokens tests ++ rest))) := by
      simp [testTokens]
    have hlength : (testTokens ((left, right) :: tests)).length =
        left.length + right.length + (testTokens tests).length + 5 := by
      simp [testTokens]
      omega
    rw [hlength] at hb
    have hbinding : binding [kw "AND"] = 20 := by decide
    have hfollowed := (ends_testTokens tests hrest (Nat.le_refl 20)).1
    have htest := yields_test (d := d) hleft hright (by omega) hfollowed hrest
      fun d => ih (d := d) (c := r) (k := b) (by omega) (by omega)
    have hsides := yields_rightSide (l := c) "AND" (hleft.start _) htest
    rw [apply_ite (Option.map _), Option.map_some, Option.map_none] at hsides
    rw [htokens, List.length_cons, Nat.mul_succ]
    exact yields_operators (by simp [followers]) hbinding (by decide)
      (yields_infixOf (by simp [binaryOperators]) hsides) (follows_of_mem_ite hrest) hk

end

end SemanticLayer.Sql
