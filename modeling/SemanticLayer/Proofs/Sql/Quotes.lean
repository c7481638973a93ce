import SemanticLayer.Proofs.Sql.Lexing
import SemanticLayer.Sql.Literal

/-
# Values that stay between their quotes

`quoteBody` writes a quote behind a backslash once, and the quotes of a run
behind a backslash likewise, while readers take every two quotes for one.  So a
value stays between its quotes exactly when every run of quotes directly behind
a backslash has even length:

| value | written | stays |
| --- | --- | --- |
| `it's` | `'it''s'` | yes |
| `\''` | `'\'''` | yes |
| `\'` | `'\''` | no |

`contained` says that it does; then `received` is what is read back
(`quoteBody_eq_doubled`).  `balanced` tells the two apart on the text alone: it
toggles at every quote and lets a backslash stand only inside.  A contained
value leaves the toggle as it was, any other one turns it over for good
(`balanced_quoteBody_of_not_contained`).
-/

namespace SemanticLayer.Sql

/-- What stands before a character of a value. -/
inductive QuoteState where
  | plain
  /-- A quote that has been written twice. -/
  | paired
  /-- A backslash, with an even number of quotes behind it. -/
  | escaping
  /-- A backslash, with an odd number of quotes behind it. -/
  | half
deriving DecidableEq

namespace QuoteState

/-- How `quoteBody` goes on. -/
def mode : QuoteState → QuoteMode
  | plain => .plain
  | paired => .paired
  | escaping => .escaping
  | half => .escaping

/-- Whether what has been written leaves the next character between the quotes. -/
def inside : QuoteState → Bool
  | half => false
  | _ => true

/-- What stands before the next character, behind one that is no quote. -/
def after (c : Char) : QuoteState := if c = '\\' then escaping else plain

theorem inside_iff {s : QuoteState} : s.inside = true ↔ s ≠ half := by
  cases s <;> simp [inside]

theorem inside_after (c : Char) : (after c).inside = true := by
  unfold after
  split <;> rfl

end QuoteState

/-- Whether every run of quotes directly behind a backslash has even length. -/
def contained : QuoteState → List Char → Bool
  | .half, [] => false
  | _, [] => true
  | .plain, c :: rest => if c = '\'' then contained .paired rest else contained (.after c) rest
  | .paired, c :: rest => if c = '\'' then contained .plain rest else contained (.after c) rest
  | .escaping, c :: rest => if c = '\'' then contained .half rest else contained (.after c) rest
  | .half, c :: rest => if c = '\'' then contained .escaping rest else false

/-- What is read back of a value that stays between its quotes: pairs of quotes become one. -/
def received : QuoteState → List Char → List Char
  | _, [] => []
  | .plain, c :: rest =>
    if c = '\'' then '\'' :: received .paired rest else c :: received (.after c) rest
  | .paired, c :: rest => if c = '\'' then received .plain rest else c :: received (.after c) rest
  | .escaping, c :: rest =>
    if c = '\'' then '\'' :: received .half rest else c :: received (.after c) rest
  | .half, c :: rest => if c = '\'' then received .escaping rest else c :: received (.after c) rest

attribute [local simp] contained received

/-- A character that is no quote is written as it is. -/
theorem quoteBody_cons_of_ne {mode : QuoteMode} {c : Char} {rest : List Char} (h : c ≠ '\'') :
    quoteBody '\'' mode (c :: rest) = c :: quoteBody '\'' (QuoteState.after c).mode rest := by
  have hbody : quoteBody '\'' mode (c :: rest) =
      c :: quoteBody '\'' (if c = '\\' then .escaping else .plain) rest := by
    cases mode <;> simp only [quoteBody, if_neg h]
  rw [hbody, QuoteState.after]
  split <;> rfl

theorem received_cons_of_ne {s : QuoteState} {c : Char} {rest : List Char} (h : c ≠ '\'') :
    received s (c :: rest) = c :: received (.after c) rest := by
  cases s <;> rw [received, if_neg h]

theorem contained_cons_of_ne {s : QuoteState} {c : Char} {rest : List Char} (h : c ≠ '\'') :
    contained s (c :: rest) = (s.inside && contained (.after c) rest) := by
  cases s <;> rw [contained, if_neg h] <;> rfl

/-- **A contained value is written like any text whose quotes are doubled.**  Behind an odd number
of quotes, the second half of the last one is still to be written. -/
theorem quoteBody_eq_doubled {s : QuoteState} {cs : List Char} (h : contained s cs = true) :
    quoteBody '\'' s.mode cs = (if s = .half then ['\''] else []) ++
      doubled '\'' (received s cs) := by
  induction cs generalizing s with
  | nil => cases s <;> first | rfl | cases h
  | cons c rest ih =>
    by_cases hc : c = '\''
    · subst hc
      cases s <;> simp only [contained, if_true] at h <;> have hrest := ih h <;>
        simp only [QuoteState.mode] at hrest <;>
        simp [QuoteState.mode, quoteBody, hrest, doubled]
    · rw [contained_cons_of_ne hc, Bool.and_eq_true] at h
      have hs : s ≠ .half := QuoteState.inside_iff.1 h.1
      have hafter : QuoteState.after c ≠ .half := QuoteState.inside_iff.1 (QuoteState.inside_after c)
      rw [quoteBody_cons_of_ne hc, ih h.2, received_cons_of_ne hc, if_neg hs, if_neg hafter]
      simp [doubled, hc]

/-- How many quotes a text starts with. -/
def leadingQuotes (cs : List Char) : Nat := (cs.takeWhile (· == '\'')).length

/-- Somewhere in a text, a backslash has an odd number of quotes directly behind it. -/
def Unpaired (cs : List Char) : Prop :=
  ∃ before after, cs = before ++ '\\' :: after ∧ leadingQuotes after % 2 = 1

theorem unpaired_cons {c : Char} {rest : List Char} :
    Unpaired (c :: rest) ↔ (c = '\\' ∧ leadingQuotes rest % 2 = 1) ∨ Unpaired rest := by
  constructor
  · rintro ⟨before, after, heq, hodd⟩
    cases before with
    | nil =>
      cases heq
      exact .inl ⟨rfl, hodd⟩
    | cons d before =>
      cases heq
      exact .inr ⟨before, after, rfl, hodd⟩
  · rintro (⟨rfl, hodd⟩ | ⟨before, after, rfl, hodd⟩)
    · exact ⟨[], rest, rfl, hodd⟩
    · exact ⟨c :: before, after, rfl, hodd⟩

/-- **A value stays between its quotes unless a backslash has an odd number of quotes
behind it.** -/
theorem contained_iff {cs : List Char} : contained .plain cs = true ↔ ¬ Unpaired cs := by
  -- A backslash, with or without quotes behind it, decides which number of quotes may follow.
  have hgo : ∀ s, contained s cs = true ↔ ¬ Unpaired cs ∧
      (s = .escaping → leadingQuotes cs % 2 = 0) ∧ (s = .half → leadingQuotes cs % 2 = 1) := by
    induction cs with
    | nil =>
      have hnone : ¬ Unpaired [] := fun ⟨before, after, heq, _⟩ => by cases before <;> cases heq
      intro s
      cases s <;> simp [hnone, leadingQuotes]
    | cons c rest ih =>
      intro s
      rw [unpaired_cons]
      by_cases hc : c = '\''
      · have hcount : leadingQuotes (c :: rest) = leadingQuotes rest + 1 := by
          simp [leadingQuotes, hc]
        have hback : ¬ c = '\\' := hc ▸ by decide
        cases s <;> simp only [contained, if_pos hc, ih, hcount, hback] <;> simp <;> omega
      · have hcount : leadingQuotes (c :: rest) = 0 := by
          simp [leadingQuotes, hc]
        have hafter : contained (QuoteState.after c) rest = true ↔
            ¬ (c = '\\' ∧ leadingQuotes rest % 2 = 1 ∨ Unpaired rest) := by
          unfold QuoteState.after
          by_cases hback : c = '\\'
          · rw [if_pos hback, ih]
            constructor
            · rintro ⟨hnot, heven, -⟩ (⟨-, hodd⟩ | hun)
              · have := heven rfl
                omega
              · exact hnot hun
            · intro h
              refine ⟨fun hun => h (.inr hun), fun _ => ?_, nofun⟩
              exact Decidable.byContradiction fun hodd => h (.inl ⟨hback, by omega⟩)
          · rw [if_neg hback, ih]
            simp [hback]
        rw [contained_cons_of_ne hc, hcount, Bool.and_eq_true, hafter]
        cases s <;> simp [QuoteState.inside]
  simpa using hgo .plain
/-! ### Telling the two apart -/

/-- Whether a text comes to its end outside of quotes and has backslashes only between them, when it
starts inside or outside. -/
def balanced : Bool → List Char → Bool
  | inside, [] => !inside
  | inside, c :: rest =>
    if c = '\'' then balanced (!inside) rest
    else if c = '\\' then inside && balanced inside rest
    else balanced inside rest

theorem balanced_quote (inside : Bool) (rest : List Char) :
    balanced inside ('\'' :: rest) = balanced (!inside) rest := by
  simp [balanced]

theorem balanced_cons_of_ne {c : Char} (h : c ≠ '\'') (inside : Bool) (rest : List Char) :
    balanced inside (c :: rest) =
      if c = '\\' then inside && balanced inside rest else balanced inside rest := by
  rw [balanced, if_neg h]

/-- Characters that are neither quotes nor backslashes do not matter. -/
theorem balanced_append {cs rest : List Char} (h : ∀ c ∈ cs, c ≠ '\'' ∧ c ≠ '\\') (inside : Bool) :
    balanced inside (cs ++ rest) = balanced inside rest := by
  induction cs with
  | nil => rfl
  | cons c cs ih =>
    have hc := h c List.mem_cons_self
    rw [List.cons_append, balanced_cons_of_ne hc.1, if_neg hc.2,
      ih fun d hd => h d (List.mem_cons_of_mem _ hd)]

/-- Inside, a text whose quotes are doubled does not matter either. -/
theorem balanced_doubled (cs rest : List Char) :
    balanced true (doubled '\'' cs ++ rest) = balanced true rest := by
  induction cs with
  | nil => rfl
  | cons c cs ih =>
    rw [doubled, List.flatMap_cons, List.append_assoc]
    rw [doubled] at ih
    split
    · simp only [List.cons_append, List.nil_append, balanced_quote, Bool.not_true, Bool.not_false,
        ih]
    · rename_i hc
      simp only [List.cons_append, List.nil_append, balanced_cons_of_ne hc, Bool.true_and, ih,
        ite_self]

/-- Outside, it passes only without a backslash, and leaves the toggle outside. -/
theorem balanced_of_doubled {cs rest : List Char}
    (h : balanced false (doubled '\'' cs ++ rest) = true) : balanced false rest = true := by
  induction cs with
  | nil => exact h
  | cons c cs ih =>
    refine ih ?_
    rw [doubled, List.flatMap_cons, List.append_assoc] at h
    rw [doubled]
    split at h
    · simpa [balanced_quote] using h
    · rename_i hc
      simp only [List.cons_append, List.nil_append, balanced_cons_of_ne hc] at h
      split at h
      · cases h
      · exact h

/-- **Outside, a value passes only without a backslash,** and then leaves the toggle outside. -/
theorem balanced_of_quoteBody {m : QuoteMode} (hmode : m ≠ .escaping) {cs rest : List Char}
    (h : balanced false (quoteBody '\'' m cs ++ rest) = true) : balanced false rest = true := by
  induction cs generalizing m with
  | nil => cases m <;> exact h
  | cons c cs ih =>
    by_cases hc : c = '\''
    · subst hc
      cases m with
      | escaping => exact absurd rfl hmode
      | plain =>
        simp only [quoteBody, if_true, List.cons_append, balanced_quote, Bool.not_false,
          Bool.not_true] at h
        exact ih (by decide) h
      | paired =>
        simp only [quoteBody, if_true] at h
        exact ih (by decide) h
    · rw [quoteBody_cons_of_ne hc, List.cons_append, balanced_cons_of_ne hc] at h
      by_cases hback : c = '\\'
      · rw [if_pos hback] at h
        cases h
      · rw [if_neg hback, QuoteState.after, if_neg hback] at h
        exact ih (by decide) h

/-- **A value that does not stay between its quotes turns the toggle over.**  An odd run of quotes
leaves it outside, where no further backslash may stand to turn it back. -/
theorem balanced_quoteBody_of_not_contained {s : QuoteState} {cs rest : List Char}
    (hs : contained s cs = false)
    (h : balanced s.inside (quoteBody '\'' s.mode cs ++ rest) = true) :
    balanced false rest = true := by
  induction cs generalizing s with
  | nil => cases s <;> first | exact h | cases hs
  | cons c cs ih =>
    by_cases hc : c = '\''
    · subst hc
      cases s <;> simp only [contained, if_true] at hs <;> refine ih hs ?_ <;>
        simpa [quoteBody, QuoteState.mode, QuoteState.inside, balanced_quote] using h
    · rw [quoteBody_cons_of_ne hc, List.cons_append, balanced_cons_of_ne hc] at h
      cases s with
      | half =>
        -- Outside, behind an odd run: a backslash is out of place, and nothing else turns back.
        by_cases hback : c = '\\'
        · rw [if_pos hback] at h
          cases h
        · rw [if_neg hback, QuoteState.after, if_neg hback] at h
          exact balanced_of_quoteBody (by decide) h
      | plain | paired | escaping =>
        rw [contained_cons_of_ne hc] at hs
        refine ih hs ?_
        rw [QuoteState.inside_after]
        by_cases hback : c = '\\'
        · simpa [hback, QuoteState.inside] using h
        · simpa [hback, QuoteState.inside] using h

end SemanticLayer.Sql
