import Mathlib
import SemanticLayer.Text.Lowercase

/-
# What is in lower case already

A text is its own lower case if each of its characters is (`lowerFrom_eq_self`).
Of the characters that lower case puts into a text, those of ASCII are
(`isLower_of_mem_lowerFrom`): beyond ASCII only the Kelvin sign has a form in
ASCII, the letter `k`.
-/

namespace SemanticLayer.Text

/-- A character that is its own lower case wherever it stands. -/
def IsLower (c : Char) : Prop := c ≠ 'İ' ∧ c ≠ 'Σ' ∧ lowerChar c = c

/-- **A text of such characters is its own lower case.** -/
theorem lowerFrom_eq_self (before : List Char) {cs : List Char} (hcs : ∀ c ∈ cs, IsLower c) :
    lowerFrom before cs = cs := by
  induction cs generalizing before with
  | nil => rfl
  | cons c cs ih =>
    obtain ⟨⟨hdotted, hsigma, hc⟩, hrest⟩ := List.forall_mem_cons.1 hcs
    rw [lowerFrom, if_neg hdotted, if_neg hsigma, hc, ih _ hrest]
    rfl

theorem lowerFrom_ne_nil {before cs : List Char} (h : cs ≠ []) : lowerFrom before cs ≠ [] := by
  obtain ⟨c, rest, rfl⟩ := List.exists_cons_of_ne_nil h
  rw [lowerFrom]
  split
  · exact List.cons_ne_nil _ _
  · split
    · split <;> exact List.cons_ne_nil _ _
    · exact List.cons_ne_nil _ _

theorem isLower_of_ascii {c : Char} (hascii : c.toNat < 128) (hlower : c.toLower = c) :
    IsLower c := by
  refine ⟨?_, ?_, ?_⟩
  · rintro rfl
    exact absurd hascii (by decide)
  · rintro rfl
    exact absurd hascii (by decide)
  · rw [lowerChar, if_pos hascii, hlower]

/-- A character beyond ASCII has no form in ASCII but `k`, which is that of the Kelvin sign. -/
theorem lowerChar_eq_k {c : Char} (hbeyond : ¬ c.toNat < 128) (hascii : (lowerChar c).toNat < 128) :
    lowerChar c = 'k' := by
  have hruns : (lowercaseRuns.toList.all fun run =>
      run == (0x212A, 0x212A, 1, -8383) || (128 ≤ run.1 + run.2.2.2 &&
        (run.2.1 + run.2.2.2 < 0xD800 ||
          (0xDFFF < run.1 + run.2.2.2 && run.2.1 + run.2.2.2 < 0x110000)))) = true := by
    decide
  rw [lowerChar, if_neg hbeyond] at hascii ⊢
  split at hascii
  · rename_i lo hi step distance hrun
    have hmem := Array.mem_toList_iff.2 (Array.mem_of_find?_eq_some hrun)
    have hfound := Array.find?_some hrun
    have hout := List.all_eq_true.1 hruns _ hmem
    simp only [Bool.and_eq_true, Bool.or_eq_true, decide_eq_true_eq, beq_iff_eq,
      Prod.mk.injEq] at hfound hout
    rcases hout with ⟨rfl, rfl, -, rfl⟩ | hout
    · have hkelvin : c.toNat = 0x212A := by omega
      rw [hkelvin]
      rfl
    · -- the form is a character of its own code point, which is beyond ASCII
      have hcode : (c.toNat + distance).toNat.isValidChar := by
        unfold Nat.isValidChar
        omega
      rw [Char.toNat_ofNat, if_pos hcode] at hascii
      omega
  · exact absurd hascii hbeyond

/-- **What lower case puts into a text** is its own lower case, if it is of ASCII. -/
theorem isLower_of_mem_lowerFrom {before cs : List Char} {c : Char} (hc : c ∈ lowerFrom before cs)
    (hascii : c.toNat < 128) : IsLower c := by
  refine isLower_of_ascii hascii ?_
  induction cs generalizing before with
  | nil => cases hc
  | cons d cs ih =>
    rw [lowerFrom, List.mem_append] at hc
    rcases hc with hc | hc
    · split at hc
      · rcases List.mem_pair.1 hc with rfl | rfl
        · rfl
        · exact absurd hascii (by decide)
      · split at hc
        · split at hc
          all_goals
            rw [List.mem_singleton.1 hc] at hascii
            exact absurd hascii (by decide)
        · rw [List.mem_singleton.1 hc] at hascii ⊢
          by_cases hd : d.toNat < 128
          · rw [lowerChar, if_pos hd, Char.toLower_toLower_eq_toLower]
          · rw [lowerChar_eq_k hd hascii]
            rfl
    · exact ih hc

end SemanticLayer.Text
