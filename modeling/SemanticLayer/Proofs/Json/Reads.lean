import Mathlib.Data.List.TakeWhile
import SemanticLayer.Json.Scan

/-
# What a scanner reads

`x.Reads cs a rest`: standing before `cs`, the scanner `x` gives `a` and then
stands before `rest`.  Lines and columns play no part in it, and the bound on
loops is only asked to exceed what is left of the text.  There is one lemma for
each scanner that the reading of written documents comes to; blanks may stand
before each token.
-/

namespace SemanticLayer.Json

/-- Moving past a character leaves the rest of the text, and the bound as it was. -/
theorem Cursor.advance_cons {c : Cursor} {ch : Char} {cs : List Char} (h : c.rest = ch :: cs) :
    c.advance.rest = cs ∧ c.advance.budget = c.budget := by
  unfold advance
  split
  · rename_i hn
    rw [h] at hn
    cases hn
  · rename_i hn
    rw [h] at hn
    cases hn
    exact ⟨rfl, rfl⟩
  · rename_i hn
    rw [h] at hn
    cases hn
    exact ⟨rfl, rfl⟩

theorem Cursor.budget_advance (c : Cursor) : c.advance.budget = c.budget := by
  cases hc : c.rest with
  | nil => rw [advance, hc]
  | cons ch cs => exact (advance_cons hc).2

theorem Cursor.budget_skip (n : Nat) (c : Cursor) : (c.skip n).budget = c.budget := by
  induction n generalizing c with
  | zero => rfl
  | succ n ih => rw [skip, ih, budget_advance]

theorem Cursor.rest_advance (c : Cursor) : c.advance.rest = c.rest.tail := by
  cases hc : c.rest with
  | nil => rw [advance, hc, hc]; rfl
  | cons ch cs => exact (advance_cons hc).1

theorem Cursor.rest_skip (n : Nat) (c : Cursor) : (c.skip n).rest = c.rest.drop n := by
  induction n generalizing c with
  | zero => rfl
  | succ n ih => rw [skip, ih, rest_advance, ← List.drop_one, List.drop_drop, Nat.add_comm]

namespace Scan

variable {α β σ : Type} {a : α} {b : β} {cs m rest : List Char}

/-- Nothing but blanks. -/
def Blanks (cs : List Char) : Prop := ∀ ch ∈ cs, isBlank ch = true

theorem Blanks.nil : Blanks [] := nofun

/-- From `cs`, a scanner reads `a` and leaves `rest`. -/
def Reads (x : Scan α) (cs : List Char) (a : α) (rest : List Char) : Prop :=
  ∀ c : Cursor, c.rest = cs → cs.length < c.budget →
    ∃ c', x c = (.ok a, c') ∧ c'.rest = rest ∧ rest.length < c'.budget

namespace Reads

theorem pure (a : α) (cs : List Char) : Reads (Pure.pure a) cs a cs :=
  fun c hc hb => ⟨c, rfl, hc, hb⟩

/-- What comes after a scanner that gives `a`. -/
theorem bind_of_ok {x : Scan α} {c c' : Cursor} (h : x c = (.ok a, c')) (f : α → Scan β) :
    (x >>= f) c = f a c' := by
  simp only [Bind.bind, h]

/-- Nothing comes after a scanner that stops at a problem. -/
theorem bind_of_error {x : Scan α} {c c' : Cursor} {p : Problem} (h : x c = (.error p, c'))
    (f : α → Scan β) : (x >>= f) c = (.error p, c') := by
  simp only [Bind.bind, h]

/-- **One scanner after another** reads one text after another. -/
theorem bind {x : Scan α} {f : α → Scan β} (hx : Reads x cs a m) (hf : Reads (f a) m b rest) :
    Reads (x >>= f) cs b rest := by
  intro c hc hb
  obtain ⟨c₁, h₁, hc₁, hb₁⟩ := hx c hc hb
  obtain ⟨c₂, h₂, hc₂, hb₂⟩ := hf c₁ hc₁ hb₁
  exact ⟨c₂, (bind_of_ok h₁ f).trans h₂, hc₂, hb₂⟩

theorem map {x : Scan α} (f : α → β) (hx : Reads x cs a rest) : Reads (f <$> x) cs (f a) rest :=
  hx.bind (pure (f a) rest)

/-- The bound on loops exceeds the length of the text. -/
theorem budget {f : Nat → Scan α} (h : ∀ n, cs.length < n → Reads (f n) cs a rest) :
    Reads (Scan.budget >>= f) cs a rest :=
  fun c hc hb => h c.budget hb c hc hb

theorem placed {x : Scan α} (hx : Reads x cs a rest) : Reads (Scan.placed x) cs a rest := by
  intro c hc hb
  obtain ⟨c', h, hc', hb'⟩ := hx c hc hb
  exact ⟨c', by simp [Scan.placed, h], hc', hb'⟩

theorem ofExcept (a : α) (cs : List Char) : Reads (Scan.ofExcept (.ok a)) cs a cs := pure a cs

/-- What is visited, then what closes it. -/
theorem closing {visit : Scan α} {close : Scan Unit} (hv : Reads visit cs a m)
    (hc : Reads close m () rest) : Reads (Scan.closing visit close) cs a rest := by
  intro c hcs hb
  obtain ⟨c₁, h₁, hc₁, hb₁⟩ := hv c hcs hb
  obtain ⟨c₂, h₂, hc₂, hb₂⟩ := hc c₁ hc₁ hb₁
  exact ⟨c₂, by simp [Scan.closing, h₁, h₂], hc₂, hb₂⟩

/-- A scanner that leaves nothing but blanks gives its value. -/
theorem run_blanks {x : Scan α} {s : String} (hx : Reads x s.toList a rest) (hrest : Blanks rest) :
    x.run s = .ok a := by
  obtain ⟨c₁, h₁, hc₁, -⟩ := hx (Cursor.start s.toList) rfl (Nat.lt_succ_self _)
  let c₂ := c₁.skip (c₁.rest.takeWhile isBlank).length
  have hnext : c₂.rest = [] := by
    rw [Cursor.rest_skip, hc₁, List.takeWhile_eq_self_iff.2 hrest, List.drop_length]
  have hpeek : peek c₁ = (.ok none, c₂) := Prod.ext (congrArg (Except.ok ∘ List.head?) hnext) rfl
  have hfinish : finish c₁ = (.ok (), c₂) := bind_of_ok hpeek _
  rw [Scan.run, bind_of_ok h₁, bind_of_ok hfinish]
  rfl

/-- A scanner that reads a whole text gives its value. -/
theorem run {x : Scan α} {s : String} (hx : Reads x s.toList a []) : x.run s = .ok a :=
  hx.run_blanks .nil

/-- A scanner that leaves more than blanks has read too little. -/
theorem run_trailing {x : Scan α} {s : String} (hx : Reads x s.toList a rest)
    (hrest : ∃ ch ∈ rest, isBlank ch = false) :
    ∃ place, x.run s = .error ⟨.trailingCharacters, some place⟩ := by
  obtain ⟨c₁, h₁, hc₁, -⟩ := hx (Cursor.start s.toList) rfl (Nat.lt_succ_self _)
  obtain ⟨ch, cs, hdrop⟩ : ∃ ch cs, rest.dropWhile isBlank = ch :: cs := by
    refine List.exists_cons_of_ne_nil fun hnil => ?_
    obtain ⟨ch, hch, hblank⟩ := hrest
    exact absurd (List.dropWhile_eq_nil_iff.1 hnil ch hch) (by simp [hblank])
  let c₂ := c₁.skip (c₁.rest.takeWhile isBlank).length
  have hnext : c₂.rest = ch :: cs := by
    calc c₂.rest = rest.drop (rest.takeWhile isBlank).length := by rw [Cursor.rest_skip, hc₁]
      _ = (rest.takeWhile isBlank ++ rest.dropWhile isBlank).drop (rest.takeWhile isBlank).length :=
        by rw [List.takeWhile_append_dropWhile]
      _ = ch :: cs := by rw [List.drop_left, hdrop]
  have hpeek : peek c₁ = (.ok (some ch), c₂) :=
    Prod.ext (congrArg (Except.ok ∘ List.head?) hnext) rfl
  have hfinish : finish c₁ = (.error ⟨.trailingCharacters, some c₂.placeAfterByte⟩, c₂) :=
    bind_of_ok hpeek _
  refine ⟨c₂.placeAfterByte, ?_⟩
  rw [Scan.run, bind_of_ok h₁, bind_of_error hfinish]

end Reads

/-! ### Characters -/

variable {ch : Char}

theorem reads_next (cs : List Char) : Reads next cs cs.head? cs :=
  fun c hc hb => ⟨c, by rw [← hc]; rfl, hc, hb⟩

theorem reads_eat (ch : Char) (cs : List Char) : Reads eat (ch :: cs) () cs := by
  intro c hc hb
  obtain ⟨hr, hbudget⟩ := Cursor.advance_cons hc
  refine ⟨c.advance, rfl, hr, ?_⟩
  rw [List.length_cons] at hb
  omega

/-- Blanks are skipped before another character. -/
theorem reads_peek_blanks {b : List Char} (hb : Blanks b) (hch : isBlank ch = false)
    (cs : List Char) : Reads peek (b ++ ch :: cs) (some ch) (ch :: cs) := by
  intro c hc hbudget
  let c' := c.skip (c.rest.takeWhile isBlank).length
  have hblank : (b ++ ch :: cs).takeWhile isBlank = b := by
    rw [List.takeWhile_append_of_pos hb, List.takeWhile_cons_of_neg (by simp [hch]),
      List.append_nil]
  have hnext : c'.rest = ch :: cs := by rw [Cursor.rest_skip, hc, hblank, List.drop_left]
  refine ⟨c', Prod.ext (congrArg (Except.ok ∘ List.head?) hnext) rfl, hnext, ?_⟩
  rw [Cursor.budget_skip]
  rw [List.length_append] at hbudget
  omega

/-- No blank is skipped before another character. -/
theorem reads_peek (hch : isBlank ch = false) (cs : List Char) :
    Reads peek (ch :: cs) (some ch) (ch :: cs) := reads_peek_blanks .nil hch cs

/-- The letters of a word are read one by one. -/
theorem reads_word (letters rest : List Char) : Reads (word letters) (letters ++ rest) () rest := by
  induction letters with
  | nil => exact .pure () rest
  | cons l letters ih =>
    refine (reads_next _).bind ?_
    simp only [List.cons_append, List.head?_cons, if_true]
    exact (reads_eat l _).bind ih

/-- Four hexadecimal digits give their number. -/
theorem reads_fourHex {h₁ h₂ h₃ h₄ : Char} {n : Nat} (hn : hexNumber? [h₁, h₂, h₃, h₄] = some n)
    (rest : List Char) : Reads fourHex (h₁ :: h₂ :: h₃ :: h₄ :: rest) n rest := by
  intro c hc hb
  obtain ⟨e₁, b₁⟩ := Cursor.advance_cons hc
  obtain ⟨e₂, b₂⟩ := Cursor.advance_cons e₁
  obtain ⟨e₃, b₃⟩ := Cursor.advance_cons e₂
  obtain ⟨e₄, b₄⟩ := Cursor.advance_cons e₃
  refine ⟨c.skip 4, ?_, e₄, ?_⟩
  · have hmark : ∀ ch : Char, 1 ≤ (byteMarks [ch]).length := by
      intro ch
      unfold byteMarks
      simp only [List.flatMap_cons, List.flatMap_nil, List.append_nil]
      split
      · simp
      · simpa using Nat.succ_le_of_lt ch.utf8Size_pos
    have hmarks : ((byteMarks [h₁, h₂, h₃, h₄]).take 4).length = 4 := by
      have heq : byteMarks [h₁, h₂, h₃, h₄] =
          byteMarks [h₁] ++ (byteMarks [h₂] ++ (byteMarks [h₃] ++ byteMarks [h₄])) := by
        simp [byteMarks]
      have m₁ := hmark h₁
      have m₂ := hmark h₂
      have m₃ := hmark h₃
      have m₄ := hmark h₄
      rw [heq, List.length_take]
      simp only [List.length_append]
      omega
    simp [fourHex, hc, hmarks, hn]
  · have hlen : (c.skip 4).budget = c.budget := b₄.trans (b₃.trans (b₂.trans b₁))
    simp only [List.length_cons] at hb
    omega

/-! ### Brackets, commas and colons -/

theorem reads_colon {b : List Char} (hb : Blanks b) (rest : List Char) :
    Reads colon (b ++ ':' :: rest) () rest :=
  (reads_peek_blanks hb rfl _).bind (reads_eat _ rest)

theorem reads_endList (rest : List Char) : Reads endList (']' :: rest) () rest :=
  (reads_peek rfl _).bind (reads_eat _ rest)

theorem reads_endObject (rest : List Char) : Reads endObject ('\x7d' :: rest) () rest :=
  (reads_peek rfl _).bind (reads_eat _ rest)

/-- **A list is what its brackets hold,** as long as brackets may be open. -/
theorem reads_inList {depth : Nat} {visit : Nat → Scan α} (hd : 1 < depth)
    (hv : Reads (visit (depth - 1)) cs a (']' :: rest)) :
    Reads (inList depth visit) ('[' :: cs) a rest := by
  unfold inList
  rw [if_neg (by omega)]
  exact ((reads_eat _ cs).bind (hv.closing (reads_endList rest))).placed

/-- **An object is what its braces hold,** as long as braces may be open. -/
theorem reads_inObject {depth : Nat} {visit : Nat → Scan α} (hd : 1 < depth)
    (hv : Reads (visit (depth - 1)) cs a ('\x7d' :: rest)) :
    Reads (inObject depth visit) ('\x7b' :: cs) a rest := by
  unfold inObject
  rw [if_neg (by omega)]
  exact ((reads_eat _ cs).bind (hv.closing (reads_endObject rest))).placed

section

variable {b b' : List Char} (hb : Blanks b)
include hb

/-- A list ends before its bracket. -/
theorem reads_foldElements_end {step : σ → Scan σ} {fuel : Nat} (hfuel : 0 < fuel) (first : Bool)
    (s : σ) (rest : List Char) :
    Reads (foldElements step fuel first s) (b ++ ']' :: rest) s (']' :: rest) := by
  obtain ⟨fuel, rfl⟩ := Nat.exists_eq_succ_of_ne_zero (Nat.ne_of_gt hfuel)
  have hnext : Reads (nextElement first) (b ++ ']' :: rest) false (']' :: rest) :=
    (reads_peek_blanks hb rfl _).bind (.pure false _)
  exact hnext.bind (.pure s _)

/-- The first element of a list stands behind its bracket. -/
theorem reads_foldElements_first {step : σ → Scan σ} {fuel : Nat} {s s' t : σ}
    (hblank : isBlank ch = false) (hend : ch ≠ ']') (hstep : Reads (step s) (ch :: cs) s' m)
    (htail : Reads (foldElements step fuel false s') m t rest) :
    Reads (foldElements step (fuel + 1) true s) (b ++ ch :: cs) t rest := by
  have hnext : Reads (nextElement true) (b ++ ch :: cs) true (ch :: cs) := by
    refine (reads_peek_blanks hb hblank _).bind ?_
    split
    · rename_i heq
      exact absurd (Option.some.inj heq) hend
    · exact .pure true _
    · rename_i heq
      cases heq
  exact hnext.bind (hstep.bind htail)

/-- Every other element stands behind a comma. -/
theorem reads_foldElements_next {step : σ → Scan σ} {fuel : Nat} {s s' t : σ} (hb' : Blanks b')
    (hblank : isBlank ch = false) (hend : ch ≠ ']') (hstep : Reads (step s) (ch :: cs) s' m)
    (htail : Reads (foldElements step fuel false s') m t rest) :
    Reads (foldElements step (fuel + 1) false s) (b ++ ',' :: (b' ++ ch :: cs)) t rest := by
  have hnext : Reads (nextElement false) (b ++ ',' :: (b' ++ ch :: cs)) true (ch :: cs) := by
    refine (reads_peek_blanks hb rfl _).bind ((reads_eat _ _).bind
      ((reads_peek_blanks hb' hblank _).bind ?_))
    split
    · rename_i heq
      exact absurd (Option.some.inj heq) hend
    · exact .pure true _
    · rename_i heq
      cases heq
  exact hnext.bind (hstep.bind htail)

end

end Scan

end SemanticLayer.Json
