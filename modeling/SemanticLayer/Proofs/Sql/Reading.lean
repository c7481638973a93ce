import Mathlib.Data.List.Forall2
import SemanticLayer.Sql.Reader

/-
# What readers make of tokens

`Yields r xs o` says that the reader `r`, on any tokens that show as `xs` once
blanks are taken away, comes to the outcome `o`: a result with the tokens that
are left, or none.  `Reads` and `Refuses` are its two cases.  No breakdown is
an outcome.  Outcomes are put together with `Yields.bind` along the binds of a
reader; there is one lemma for each reader that looks at tokens itself.
-/

namespace SemanticLayer.Sql

/-- The tokens that readers see. -/
def visible (ts : List Token) : List Token := ts.filter fun t => !t.isBlank

/-- Whether there is a next token, and it passes a test. -/
def headIs (p : Token → Bool) (xs : List Token) : Bool := xs.head?.any p

theorem fromNext_visible (ts : List Token) :
    (visible ts = [] ∧ Reader.fromNext ts = []) ∨
      ∃ t rest, Reader.fromNext ts = t :: rest ∧ visible ts = t :: visible rest := by
  induction ts with
  | nil => exact .inl ⟨rfl, rfl⟩
  | cons t ts ih =>
    by_cases ht : t.isBlank = true
    · simpa [visible, Reader.fromNext, ht] using ih
    · refine .inr ⟨t, ts, ?_, ?_⟩
      · rw [Reader.fromNext, List.dropWhile_cons_of_neg ht]
      · rw [visible, List.filter_cons_of_pos (by simpa using ht)]
        rfl

/-- The token that shows first is the next one. -/
theorem fromNext_of_visible_cons {ts xs : List Token} {t : Token} (h : visible ts = t :: xs) :
    ∃ rest, Reader.fromNext ts = t :: rest ∧ visible rest = xs := by
  rcases fromNext_visible ts with ⟨hv, -⟩ | ⟨t', rest, hn, hv⟩
  · rw [h] at hv
    cases hv
  · rw [h] at hv
    obtain ⟨rfl, rfl⟩ := List.cons.inj hv
    exact ⟨rest, hn, rfl⟩

theorem firstOf_eq (n : Nat) (ts : List Token) : Token.firstOf n ts = (visible ts).take n := by
  induction ts generalizing n with
  | nil => cases n <;> rfl
  | cons t ts ih =>
    cases n with
    | zero => rfl
    | succ n =>
      by_cases ht : t.isBlank = true
      · rw [Token.firstOf, if_pos ht, ih, visible, visible,
          List.filter_cons_of_neg (by simpa using ht)]
      · rw [Token.firstOf, if_neg ht, ih, visible, visible,
          List.filter_cons_of_pos (by simpa using ht), List.take_succ_cons]

namespace Reader

variable {α β : Type} {xs ys : List Token} {a : α} {t : Token}

/-- The outcome of a reader on tokens that show as `xs`. -/
def Yields (r : Reader α) (xs : List Token) (o : Option (α × List Token)) : Prop :=
  ∀ ts, visible ts = xs → ∃ o', (r ts).run = .ok o' ∧ (o'.map fun p => (p.1, visible p.2)) = o

/-- A reader finds something and leaves `ys`. -/
abbrev Reads (r : Reader α) (xs : List Token) (a : α) (ys : List Token) : Prop :=
  Yields r xs (some (a, ys))

/-- A reader finds nothing. -/
abbrev Refuses (r : Reader α) (xs : List Token) : Prop := Yields r xs none

/-! ### Binds and choices -/

theorem Yields.pure (a : α) : Reads (Pure.pure a) xs a xs := fun ts hts =>
  ⟨some (a, ts), rfl, by rw [Option.map_some, hts]⟩

theorem Yields.failure : Refuses (Alternative.failure : Reader α) xs := fun _ _ => ⟨none, rfl, rfl⟩

/-- **What comes behind a reader starts where it ends.** -/
theorem Yields.bind {x : Reader α} {f : α → Reader β} {o : Option (β × List Token)}
    (hx : Reads x xs a ys) (hf : Yields (f a) ys o) : Yields (x >>= f) xs o := by
  intro ts hts
  obtain ⟨o', hrun, ho⟩ := hx ts hts
  obtain ⟨⟨a', rest⟩, rfl, hp⟩ := Option.map_eq_some_iff.1 ho
  cases hp
  obtain ⟨o'', hrun', ho'⟩ := hf rest rfl
  refine ⟨o'', ?_, ho'⟩
  have hx' : x ts = OptionT.mk (.ok (some (a', rest))) := hrun
  simp only [Bind.bind, StateT.bind, hx']
  exact hrun'

/-- **A reader that finds nothing ends what it is part of.** -/
theorem Yields.bind_refuses {x : Reader α} {f : α → Reader β} (hx : Refuses x xs) :
    Refuses (x >>= f) xs := by
  intro ts hts
  obtain ⟨o', hrun, ho⟩ := hx ts hts
  obtain rfl := Option.map_eq_none_iff.1 ho
  have hx' : x ts = OptionT.mk (.ok none) := hrun
  refine ⟨none, ?_, rfl⟩
  simp only [Bind.bind, StateT.bind, hx']
  rfl

theorem Yields.bind_pure {x : Reader α} {f : α → β} {o : Option (α × List Token)}
    (hx : Yields x xs o) :
    Yields (x >>= fun a => Pure.pure (f a)) xs (o.map fun p => (f p.1, p.2)) := by
  cases o with
  | none => exact hx.bind_refuses
  | some p => exact hx.bind (.pure _)

theorem Yields.ite_pos {c : Prop} [Decidable c] {r r' : Reader α} {o : Option (α × List Token)}
    (hc : c) (h : Yields r xs o) : Yields (if c then r else r') xs o := by
  rwa [if_pos hc]

theorem Yields.ite_neg {c : Prop} [Decidable c] {r r' : Reader α} {o : Option (α × List Token)}
    (hc : ¬ c) (h : Yields r' xs o) : Yields (if c then r else r') xs o := by
  rwa [if_neg hc]

/-- A choice by what a reader tells, when it tells that something is there. -/
theorem Yields.bind_true {c : Reader Bool} {r r' : Reader α} {o : Option (α × List Token)}
    (hc : Reads c xs true ys) (h : Yields r ys o) :
    Yields (c >>= fun b => if b = true then r else r') xs o :=
  hc.bind (.ite_pos rfl h)

/-- The same choice, when it tells that it is not. -/
theorem Yields.bind_false {c : Reader Bool} {r r' : Reader α} {o : Option (α × List Token)}
    (hc : Reads c xs false ys) (h : Yields r' ys o) :
    Yields (c >>= fun b => if b = true then r else r') xs o :=
  hc.bind (.ite_neg Bool.false_ne_true h)

theorem Yields.attempt {r : Reader α} (h : Reads r xs a ys) :
    Reads (Reader.attempt r) xs (some a) ys := by
  intro ts hts
  obtain ⟨o', hrun, ho⟩ := h ts hts
  obtain ⟨⟨a', rest⟩, rfl, hp⟩ := Option.map_eq_some_iff.1 ho
  cases hp
  refine ⟨some (some a', rest), ?_, rfl⟩
  simp only [Reader.attempt, hrun]
  rfl

/-- What cannot be read is left as it is. -/
theorem Yields.attempt_refuses {r : Reader α} (h : Refuses r xs) :
    Reads (Reader.attempt r) xs none xs := by
  intro ts hts
  obtain ⟨o', hrun, ho⟩ := h ts hts
  obtain rfl := Option.map_eq_none_iff.1 ho
  refine ⟨some (none, ts), ?_, by rw [Option.map_some, hts]⟩
  simp only [Reader.attempt, hrun]
  rfl

/-- The tokens themselves may be kept, to go back to. -/
theorem Yields.get_bind {f : List Token → Reader β} {o : Option (β × List Token)}
    (h : ∀ ts, visible ts = xs → Yields (f ts) xs o) : Yields (MonadState.get >>= f) xs o :=
  fun ts hts => h ts hts ts hts

theorem Yields.set_bind {ts : List Token} {f : PUnit → Reader β} {o : Option (β × List Token)}
    (hts : visible ts = xs) (h : Yields (f ⟨⟩) xs o) : Yields (MonadStateOf.set ts >>= f) ys o :=
  fun _ _ => h ts hts

/-! ### Looking at tokens -/

theorem reads_peek : Reads peek xs xs.head? xs := by
  intro ts hts
  refine ⟨some ((fromNext ts).head?, ts), rfl, ?_⟩
  rw [Option.map_some, hts]
  rcases fromNext_visible ts with ⟨hv, hn⟩ | ⟨t, rest, hn, hv⟩
  · rw [← hts, hn, hv]
  · rw [← hts, hn, hv]
    rfl

theorem reads_ahead (n : Nat) : Reads (ahead n) xs (xs.take n) xs := by
  intro ts hts
  refine ⟨some (Token.firstOf n ts, ts), rfl, ?_⟩
  rw [Option.map_some, hts, firstOf_eq, hts]

theorem reads_next {t : Token} : Reads next (t :: xs) t xs := by
  intro ts hts
  obtain ⟨rest, hn, hrest⟩ := fromNext_of_visible_cons hts
  refine ⟨some (t, rest), ?_, by rw [Option.map_some, hrest]⟩
  change (next.run ts).run = _
  simp only [next, StateT.run_bind, StateT.run_get, pure_bind, hn]
  rfl

theorem reads_skip {t : Token} : Reads skip (t :: xs) () xs := by
  intro ts hts
  obtain ⟨rest, hn, hrest⟩ := fromNext_of_visible_cons hts
  refine ⟨some ((), rest), ?_, by rw [Option.map_some, hrest]⟩
  have hskip : (skip ts).run = .ok (some ((), (fromNext ts).drop 1)) := rfl
  rw [hskip, hn]
  rfl

theorem reads_sees (k : String) : Reads (sees k) xs (headIs (·.isKeyword k) xs) xs := by
  refine reads_peek.bind ?_
  cases xs with
  | nil => exact .pure _
  | cons t xs => exact .pure _

/-- Whether a token is one of some keywords. -/
def isAmong (ks : List String) : Token → Bool
  | .word _ none k => ks.contains k
  | _ => false

theorem reads_seesOneOf (ks : List String) :
    Reads (seesOneOf ks) xs (headIs (isAmong ks) xs) xs := by
  refine reads_peek.bind ?_
  rcases xs with _ | ⟨_ | _ | _ | _ | _ | _ | _ | _ | _, xs⟩
  case cons.word v q k => cases q <;> exact .pure _
  all_goals exact .pure _

theorem reads_seesSymbol (s : String) :
    Reads (seesSymbol s) xs (headIs (isSymbol s) xs) xs := by
  refine reads_peek.bind ?_
  cases xs <;> exact .pure _

/-! ### Taking tokens -/

/-- A keyword as a token. -/
def kw (k : String) : Token := .word k none k

theorem isKeyword_kw (k : String) : (kw k).isKeyword k = true := beq_self_eq_true k

theorem reads_takes {k : String} (h : t.isKeyword k = true) :
    Reads (takes k) (t :: xs) true xs := by
  refine (reads_sees k).bind (.ite_pos h ?_)
  exact reads_skip.bind (.pure true)

theorem reads_takes_not {k : String} (h : headIs (·.isKeyword k) xs = false) :
    Reads (takes k) xs false xs :=
  (reads_sees k).bind (.ite_neg (by rw [h]; exact Bool.false_ne_true) (.pure false))

theorem reads_takesSymbol {s : String} : Reads (takesSymbol s) (.symbol s :: xs) true xs := by
  refine (reads_seesSymbol s).bind (.ite_pos (beq_self_eq_true s) ?_)
  exact reads_skip.bind (.pure true)

theorem reads_takesSymbol_not {s : String} (h : headIs (isSymbol s) xs = false) :
    Reads (takesSymbol s) xs false xs :=
  (reads_seesSymbol s).bind (.ite_neg (by rw [h]; exact Bool.false_ne_true) (.pure false))

theorem reads_keyword {k : String} (h : t.isKeyword k = true) : Reads (keyword k) (t :: xs) () xs :=
  (reads_takes h).bind (.pure ())

theorem refuses_keyword {k : String} (h : headIs (·.isKeyword k) xs = false) :
    Refuses (keyword k) xs :=
  (reads_takes_not h).bind .failure

theorem reads_symbol {s : String} : Reads (symbol s) (.symbol s :: xs) () xs :=
  reads_takesSymbol.bind (.pure ())

theorem refuses_symbol {s : String} (h : headIs (isSymbol s) xs = false) : Refuses (symbol s) xs :=
  (reads_takesSymbol_not h).bind .failure

/-- Several keywords, one after the other. -/
theorem reads_keywords (ks : List String) : Reads (keywords ks) (ks.map kw ++ xs) () xs := by
  induction ks with
  | nil => exact .pure ()
  | cons k ks ih => exact (reads_keyword (isKeyword_kw k)).bind ih

theorem reads_takesAll (ks : List String) : Reads (takesAll ks) (ks.map kw ++ xs) true xs :=
  (reads_keywords ks).attempt.bind (.pure true)

theorem reads_takesAll_not {k : String} {ks : List String} (h : headIs (·.isKeyword k) xs = false) :
    Reads (takesAll (k :: ks)) xs false xs := by
  have hkeywords : Refuses (keywords (k :: ks)) xs := (refuses_keyword h).bind_refuses
  exact hkeywords.attempt_refuses.bind (.pure false)

theorem reads_takesOneOf {k : String} {ks : List String} (h : ks.contains k = true) :
    Reads (takesOneOf ks) (kw k :: xs) (some k) xs :=
  reads_peek.bind (.ite_pos h (reads_skip.bind (.pure _)))

theorem reads_takesOneOf_not {ks : List String} (h : headIs (isAmong ks) xs = false) :
    Reads (takesOneOf ks) xs none xs := by
  refine reads_peek.bind ?_
  rcases xs with _ | ⟨_ | _ | _ | _ | _ | _ | _ | _ | _, xs⟩
  case cons.word v q k =>
    cases q with
    | none =>
      refine .ite_neg ?_ (.pure _)
      rw [show ks.contains k = false from h]
      exact Bool.false_ne_true
    | some q => exact .pure _
  all_goals exact .pure _

theorem reads_oneOf {k : String} {ks : List String} (h : ks.contains k = true) :
    Reads (oneOf ks) (kw k :: xs) k xs :=
  (reads_takesOneOf h).bind (.pure k)

theorem reads_phrase_not {k : String} {ks : List String} (h : headIs (·.isKeyword k) xs = false) :
    Reads (phrase (k :: ks)) xs "" xs :=
  .bind_false (reads_takesAll_not h) (.pure "")

theorem reads_bracketed {r : Reader α} (h : Reads r xs a (.symbol ")" :: ys)) :
    Reads (bracketed r) (.symbol "(" :: xs) a ys :=
  reads_symbol.bind (h.bind (reads_symbol.bind (.pure a)))

theorem reads_whenTakes {k : String} {r : Reader α} (hk : t.isKeyword k = true)
    (h : Reads r xs a ys) :
    Reads (whenTakes k r) (t :: xs) (some a) ys :=
  .bind_true (reads_takes hk) (h.bind (.pure _))

theorem reads_whenTakes_not {k : String} {r : Reader α} (h : headIs (·.isKeyword k) xs = false) :
    Reads (whenTakes k r) xs none xs :=
  .bind_false (reads_takes_not h) (.pure none)

theorem reads_name {n : Name} (h : nameOf? t = some n) : Reads name (t :: xs) n xs := by
  refine reads_next.bind ?_
  rw [h]
  exact .pure n

theorem refuses_name (h : nameOf? t = none) : Refuses name (t :: xs) := by
  refine reads_next.bind ?_
  rw [h]
  exact .failure

/-! ### Lists -/

/-- Tokens with a symbol between them. -/
def between (separator : String) : List (List Token) → List Token
  | [] => []
  | [ts] => ts
  | ts :: more => ts ++ .symbol separator :: between separator more

theorem between_cons_cons (separator : String) (xs ys : List Token) (yss : List (List Token)) :
    between separator (xs :: ys :: yss) =
      xs ++ .symbol separator :: between separator (ys :: yss) := rfl

/-- **Elements with a symbol between them are read one by one,** when each of them can be read
before what may follow it. -/
theorem reads_separated {separator : String} {r : Reader α} {F : List Token → Prop}
    {segments : List (List Token)} {as : List α} {rest : List Token}
    (h : List.Forall₂ (fun xs a => ∀ rest, F rest → Reads r (xs ++ rest) a rest) segments as)
    (hseparator : ∀ rest, F (.symbol separator :: rest)) (hrest : F rest)
    (hend : headIs (isSymbol separator) rest = false) (hne : segments ≠ []) {budget : Nat}
    (hbudget : segments.length ≤ budget) :
    Reads (separated separator r budget) (between separator segments ++ rest) as rest := by
  induction h generalizing budget with
  | nil => exact absurd rfl hne
  | @cons xs a segments as hx hxs ih =>
    obtain ⟨budget, rfl⟩ : ∃ n, budget = n + 1 := ⟨budget - 1, by
      rw [List.length_cons] at hbudget
      omega⟩
    cases hxs with
    | nil =>
      refine (hx rest hrest).bind ?_
      exact .bind_false (reads_takesSymbol_not hend) (.pure [a])
    | @cons ys b segments as hy hys =>
      have hmore := ih (List.cons_ne_nil _ _) (Nat.le_of_succ_le_succ hbudget)
      rw [between_cons_cons, List.append_assoc, List.cons_append]
      refine (hx _ (hseparator _)).bind ?_
      exact .bind_true reads_takesSymbol (hmore.bind (.pure _))

/-- **Elements are read as long as there are any.** -/
theorem reads_many {r : Reader (Option α)} {F : List Token → Prop}
    {segments : List (List Token)} {as : List α} {rest : List Token}
    (h : List.Forall₂ (fun xs a => ∀ rest, F rest → Reads r (xs ++ rest) (some a) rest)
      segments as)
    (hfollows : ∀ xs ∈ segments, ∀ rest, F (xs ++ rest)) (hrest : F rest)
    (hend : Reads r rest none rest) {budget : Nat} (hbudget : segments.length ≤ budget) :
    Reads (many r budget) (segments.flatten ++ rest) as rest := by
  induction h generalizing budget with
  | nil =>
    cases budget with
    | zero => exact .pure []
    | succ budget => exact hend.bind (.pure [])
  | @cons xs a segments as hx hxs ih =>
    obtain ⟨budget, rfl⟩ : ∃ n, budget = n + 1 := ⟨budget - 1, by
      rw [List.length_cons] at hbudget
      omega⟩
    have hmore := ih (fun ys hys => hfollows ys (List.mem_cons_of_mem _ hys))
      (Nat.le_of_succ_le_succ hbudget)
    rw [List.flatten_cons, List.append_assoc]
    refine (hx _ ?_).bind (hmore.bind (.pure _))
    cases segments with
    | nil => exact hrest
    | cons ys segments =>
      rw [List.flatten_cons, List.append_assoc]
      exact hfollows ys (List.mem_cons_of_mem _ List.mem_cons_self) _

/-- A change that is not made any more. -/
theorem reads_repeated_none {step : α → Reader (Option α)} {budget : Nat}
    (h : Reads (step a) xs none xs) : Reads (repeated step budget a) xs a xs := by
  cases budget with
  | zero => exact .pure a
  | succ budget => exact h.bind (.pure a)

end Reader

end SemanticLayer.Sql
