import Mathlib
import SemanticLayer.Calendar.DateText
import SemanticLayer.Proofs.Calendar.Civil
import SemanticLayer.Proofs.Text.Utf8

/-
# Dates survive being written and read

`Date.iso` writes each number of a date with enough digits and no blanks, so
both readers find the digits that were written: `DateText.number_digits` reads
one number back, `Date.ofDocument_iso` and `Date.ofField?_iso` the whole date.
-/

namespace SemanticLayer

/-- The digits of a number behind as many zeros as it takes to reach `width`. -/
def Date.digits (width n : Nat) : List Char :=
  List.replicate (width - (Nat.toDigits 10 n).length) '0' ++ Nat.toDigits 10 n

namespace Date

theorem toList_padZeros (width n : Nat) :
    (padZeros width (toString n)).toList = digits width n := by
  rw [Nat.toString_eq_ofList_toDigits]
  simp [padZeros, digits]

theorem digits_ne_nil (width n : Nat) : digits width n ≠ [] := by
  simp [digits, Nat.toDigits_ne_nil]

/-- Only digits are written. -/
theorem isDigit_of_mem_digits {w n : Nat} {c : Char} (h : c ∈ digits w n) :
    c.isDigit = true := by
  rcases List.mem_append.1 h with h | h
  · obtain rfl := (List.mem_replicate.1 h).2
    rfl
  · exact Nat.isDigit_of_mem_toDigits (by omega) (by omega) h

/-- A number that fits is written with exactly `width` digits. -/
theorem length_digits {width n : Nat} (hw : 0 < width) (h : n < 10 ^ width) :
    (digits width n).length = width := by
  have hle := (Nat.length_toDigits_le_iff (b := 10) (by omega) hw).2 h
  rw [digits, List.length_append, List.length_replicate]
  omega

/-- A date is written with digits, dashes and perhaps a plus sign. -/
theorem mem_iso {d : Date} {c : Char} (h : c ∈ d.iso.toList) :
    c.isDigit = true ∨ c = '-' ∨ c = '+' := by
  have hdigits : ∀ width n : Nat, c ∈ (padZeros width (toString n)).toList → c.isDigit = true :=
    fun width n hc => isDigit_of_mem_digits (toList_padZeros width n ▸ hc)
  simp only [iso, isoText, String.toList_append, List.mem_append] at h
  rcases h with (((h | h) | h) | h) | h
  · unfold yearText at h
    split at h
    · exact .inl (hdigits _ _ h)
    · rw [String.toList_append, List.mem_append] at h
      rcases h with h | h
      · split at h
        · exact .inr (.inl (List.mem_singleton.1 h))
        · exact .inr (.inr (List.mem_singleton.1 h))
      · exact .inl (hdigits _ _ h)
  · exact .inr (.inl (List.mem_singleton.1 h))
  · exact .inl (hdigits _ _ h)
  · exact .inr (.inl (List.mem_singleton.1 h))
  · exact .inl (hdigits _ _ h)

end Date

namespace DateText

open Text

/-- The value of digits is the one that the standard library gives them. -/
theorem digitsValue_eq (ds : List Char) : digitsValue ds = Nat.ofDigitChars 10 ds 0 := by
  rw [Nat.ofDigitChars_eq_foldl]
  simp only [digitsValue, Nat.mul_comm 10]
  rfl

theorem toNat_of_isDigit {c : Char} (h : c.isDigit = true) : 48 ≤ c.toNat ∧ c.toNat ≤ 57 := by
  simp only [Char.isDigit, Bool.and_eq_true, decide_eq_true_eq, ge_iff_le,
    UInt32.le_iff_toNat_le] at h
  exact h

/-- So many digits have a value below that power of ten. -/
theorem digitsValue_lt {ds : List Char} (h : ∀ c ∈ ds, c.isDigit = true) :
    digitsValue ds < 10 ^ ds.length := by
  induction ds using List.reverseRecOn with
  | nil => decide
  | append_singleton ds c ih =>
    have hdigit := toNat_of_isDigit (h c (by simp))
    have hvalue := ih fun d hd => h d (List.mem_append_left _ hd)
    have hstep : digitsValue (ds ++ [c]) = digitsValue ds * 10 + (c.toNat - 48) :=
      List.foldl_append
    rw [hstep, List.length_append, List.length_singleton, Nat.pow_succ]
    omega

/-- Zeros in front do not change the value of digits. -/
theorem digitsValue_digits (width n : Nat) : digitsValue (Date.digits width n) = n := by
  rw [digitsValue_eq, Date.digits, Nat.ofDigitChars_append, Nat.ofDigitChars_replicate_zero,
    Nat.mul_zero, Nat.ofDigitChars_ten_toDigits]

/-- Every number that a date holds can be held while it is read. -/
theorem le_largest {n : Nat} (h : n ≤ 2147483648) : n ≤ largest := by
  have hl : largest = 9223372036854775807 := by rfl
  omega

/-- A text that does not start with a digit. -/
def Undigited (cs : List Char) : Prop := ∀ c ∈ cs.head?, c.isDigit = false

theorem takeWhile_digits {ds rest : List Char} (hd : ∀ c ∈ ds, c.isDigit = true)
    (hr : Undigited rest) {width : Nat} (hw : ds.length ≤ width) :
    ((ds ++ rest).take width).takeWhile Char.isDigit = ds := by
  have hrest : (rest.take (width - ds.length)).takeWhile Char.isDigit = [] := by
    cases rest with
    | nil => simp
    | cons c rest =>
      have hc := hr c rfl
      cases width - ds.length <;> simp [hc]
  rw [List.take_append, List.take_of_length_le hw, List.takeWhile_append_of_pos hd, hrest,
    List.append_nil]

/-- **A number is read back from its digits.** -/
theorem number_digits {width w n : Nat} {rest : List Char} (hr : Undigited rest)
    (hw : (Date.digits w n).length ≤ width) (hn : n ≤ largest) :
    number width (Date.digits w n ++ rest) = .ok (n, rest) := by
  have htake := takeWhile_digits (fun c => Date.isDigit_of_mem_digits (w := w) (n := n)) hr hw
  have hne : (Date.digits w n ++ rest).isEmpty = false := by
    simp [Date.digits_ne_nil]
  have hne' : (Date.digits w n).isEmpty = false := by
    simp [Date.digits_ne_nil]
  unfold number
  simp only [htake, hne, hne', digitsValue_digits, Bool.false_eq_true, if_false]
  rw [if_neg (Nat.not_lt.2 hn), List.drop_left]

/-- A character that is no blank is not skipped. -/
theorem skipBlank_cons {c : Char} {cs : List Char} (h : isBlank c = false) :
    skipBlank (c :: cs) = c :: cs := by
  simp [skipBlank, h]

/-- No digit is a blank. -/
theorem isBlank_of_isDigit {c : Char} (h : c.isDigit = true) : isBlank c = false := by
  have hc := toNat_of_isDigit h
  generalize hn : c.toNat = n at hc
  simp only [isBlank, hn]
  simp
  omega

theorem skipBlank_digits (w n : Nat) (rest : List Char) :
    skipBlank (Date.digits w n ++ rest) = Date.digits w n ++ rest := by
  cases h : Date.digits w n with
  | nil => exact absurd h (Date.digits_ne_nil w n)
  | cons c ds =>
    refine skipBlank_cons (isBlank_of_isDigit (Date.isDigit_of_mem_digits (w := w) (n := n) ?_))
    rw [h]
    exact List.mem_cons_self

/-- **A year is read back from its text.** -/
theorem year_yearText {y : Int} (hy : -2147483648 ≤ y ∧ y ≤ 2147483647) {rest : List Char}
    (hr : Undigited rest) : year ((Date.yearText y).toList ++ rest) = .ok (y, rest) := by
  unfold Date.yearText
  split
  · rename_i h
    rw [Date.toList_padZeros]
    have hnum : number 4 (Date.digits 4 y.toNat ++ rest) = .ok (y.toNat, rest) := by
      refine number_digits hr (Nat.le_of_eq (Date.length_digits (by omega) ?_)) ?_
      · omega
      · exact le_largest (by omega)
    -- A year without a sign starts with a digit, hence with neither sign.
    cases hcs : Date.digits 4 y.toNat with
    | nil => exact absurd hcs (Date.digits_ne_nil _ _)
    | cons c ds =>
      have hc : c.isDigit = true :=
        Date.isDigit_of_mem_digits (w := 4) (n := y.toNat) (by simp [hcs])
      rw [hcs] at hnum
      unfold year
      split
      · rename_i heq; cases heq; cases hc
      · rename_i heq; cases heq; cases hc
      · simp only [List.cons_append] at hnum ⊢
        rw [hnum]
        simp only [bind, Except.bind, pure, Except.pure]
        rw [if_neg (by omega)]
        simp only [Int.toNat_of_nonneg h.1]
  · have hnum : number (Date.digits 4 y.natAbs ++ rest).length (Date.digits 4 y.natAbs ++ rest) =
        .ok (y.natAbs, rest) := by
      refine number_digits hr (by simp) ?_
      exact le_largest (by omega)
    split
    · simp only [String.toList_append, Date.toList_padZeros, List.append_assoc]
      change year ('-' :: (Date.digits 4 y.natAbs ++ rest)) = _
      simp only [year, hnum, bind, Except.bind, pure, Except.pure]
      rw [if_neg (by omega)]
      congr 2
      omega
    · simp only [String.toList_append, Date.toList_padZeros, List.append_assoc]
      change year ('+' :: (Date.digits 4 y.natAbs ++ rest)) = _
      simp only [year, hnum, bind, Except.bind, pure, Except.pure]
      rw [if_neg (by omega)]
      congr 2
      omega

/-- **A month or a day is read back from its two digits.** -/
theorem field_digits {limit n : Nat} (hn : 1 ≤ n ∧ n ≤ limit) (hlimit : limit < 100)
    {rest : List Char} (hr : Undigited rest) :
    field limit (Date.digits 2 n ++ rest) = .ok (n, rest) := by
  have hnum : number 2 (Date.digits 2 n ++ rest) = .ok (n, rest) := by
    refine number_digits hr (Nat.le_of_eq (Date.length_digits (by omega) ?_)) ?_
    · omega
    · exact le_largest (by omega)
  simp only [field, skipBlank_digits, hnum, bind, Except.bind, pure, Except.pure]
  rw [if_neg (by omega)]

/-- A year starts with a sign or a digit, so no blank is skipped before it. -/
theorem skipBlank_yearText (y : Int) (rest : List Char) :
    skipBlank ((Date.yearText y).toList ++ rest) = (Date.yearText y).toList ++ rest := by
  unfold Date.yearText
  split
  · rw [Date.toList_padZeros, skipBlank_digits]
  · split <;> rw [String.toList_append, List.append_assoc]
    · exact skipBlank_cons (by decide)
    · exact skipBlank_cons (by decide)

theorem dash_cons (blanks : Bool) (rest : List Char) : dash blanks ('-' :: rest) = .ok rest := by
  cases blanks <;> rfl

/-- **Both notations read a date back from its ISO form.** -/
theorem read_iso (blanks : Bool) (d : Date) : read blanks d.iso = .ok d := by
  obtain ⟨hlo, hhi⟩ := d.year_bounds
  have hm := d.month_bounds
  have hd := d.day_bounds
  have hd' := d.day_le
  have hdash : ∀ cs, Undigited ('-' :: cs) := fun cs c hc => by cases hc; rfl
  have hday : field 31 (Date.digits 2 d.civil.day) = .ok (d.civil.day, []) := by
    have hend : Undigited [] := fun c hc => by cases hc
    have h := field_digits ⟨hd.1, hd'⟩ (by omega) hend
    rwa [List.append_nil] at h
  have hiso : d.iso.toList = (Date.yearText d.civil.year).toList ++
      '-' :: (Date.digits 2 d.civil.month ++ '-' :: Date.digits 2 d.civil.day) := by
    simp only [Date.iso, Date.isoText, String.toList_append, Date.toList_padZeros,
      List.append_assoc]
    rfl
  have hend : (if blanks = true then skipBlank [] else []) = ([] : List Char) := by
    cases blanks <;> rfl
  have hyear := year_yearText (y := d.civil.year) ⟨by omega, by omega⟩
    (hdash (Date.digits 2 d.civil.month ++ '-' :: Date.digits 2 d.civil.day))
  have hmonth := field_digits hm (by omega) (hdash (Date.digits 2 d.civil.day))
  unfold read
  rw [hiso, skipBlank_yearText]
  simp only [bind, Except.bind, hyear, dash_cons, hmonth, hday, hend, List.isEmpty_nil,
    Bool.not_true, Bool.false_eq_true, if_false, pure, Except.pure, d.ofCivil?_civil]

end DateText

/-- **A date that was written in a document is read from it.** -/
theorem Date.ofDocument_iso (d : Date) : Date.ofDocument d.iso = .ok d := DateText.read_iso true d

/-- No blank is written in a date. -/
theorem Date.isBlank_iso (d : Date) : ∀ c ∈ d.iso.toList, Text.isBlank c = false := by
  intro c hc
  rcases Date.mem_iso hc with hc | rfl | rfl
  · exact DateText.isBlank_of_isDigit hc
  · decide
  · decide

/-- **So is a date that was given as a field.** -/
theorem Date.ofField?_iso (d : Date) : Date.ofField? d.iso = some d := by
  rw [Date.ofField?, Text.trim_eq_self d.isBlank_iso, DateText.read_iso false d]

end SemanticLayer
