import SemanticLayer.Proofs.Question.Occurrences

/-
# Where the terms of a question stand

A term that is found stands in the question between two byte offsets, with no
word of ASCII going on beside it if it is one (`standsAt_of_mem_kept`).  The
terms that are kept lie apart, one behind the other (`pairwise_kept`).
-/

namespace SemanticLayer.Keywords

open Text

/-! ### Places -/

/-- A text has a term from one byte offset up to another; a term of ASCII has no letter, digit or
underscore of ASCII beside it. -/
def StandsAt (text term : List Char) (place : Nat × Nat) : Prop :=
  term ≠ [] ∧ ∃ before after, text = before ++ (term ++ after) ∧
    place = (byteCount before, byteCount before + byteCount term) ∧
    (isAscii term = true →
      (∀ c, before.getLast? = some c → isAsciiWord c = false) ∧
        ∀ c, after.head? = some c → isAsciiWord c = false)

/-- A term stands where a search marks that it does. -/
theorem isMark_iff_standsAt {text term : List Char} (hne : term ≠ []) {offset : Nat} :
    IsMark term 0 none text (offset, true) ↔
      StandsAt text term (offset, offset + byteCount term) := by
  have halone : ∀ before after : List Char,
      standsAlone term (before.getLast?.or none) after.head? = true ↔
        (isAscii term = true → (∀ c, before.getLast? = some c → isAsciiWord c = false) ∧
          ∀ c, after.head? = some c → isAsciiWord c = false) := by
    intro before after
    cases hascii : isAscii term with
    | false => simp [standsAlone, hascii]
    | true => simp [standsAlone, hascii, Option.any_eq_false]
  constructor
  · rintro ⟨left, right, htext, hmark⟩
    obtain ⟨hoffset, hstands⟩ := Prod.mk.inj hmark
    rw [Nat.zero_add] at hoffset
    exact ⟨hne, left, right, htext, by rw [hoffset], (halone left right).1 hstands.symm⟩
  · rintro ⟨-, before, after, htext, hplace, hstands⟩
    obtain ⟨hoffset, -⟩ := Prod.mk.inj hplace
    refine ⟨before, after, htext, ?_⟩
    rw [(halone before after).2 hstands, hoffset, Nat.zero_add]

/-- **What is found stands in the question.** -/
theorem standsAt_of_mem_places {question : List Char} {term : String} {target : Target} {f : Found}
    (h : f ∈ places question term target) :
    f.target = target ∧ StandsAt question (lowerFrom [] term.toList) f.place := by
  obtain ⟨start, hstart, rfl⟩ := List.mem_map.1 h
  have hne := ne_nil_of_mem_offsets hstart
  obtain ⟨hmark, -⟩ := (mem_marks_iff hne _ _ _ _).1 (mem_offsets.1 hstart)
  exact ⟨rfl, (isMark_iff_standsAt hne).1 hmark⟩

/-- **What is kept of a question stands there** as a term of the hint. -/
theorem standsAt_of_mem_kept {h : Hint} {question : String} {f : Found}
    (hf : f ∈ kept h question) : ∃ term, (term, f.target) ∈ targets h ∧
      StandsAt (lowered question) (lowerFrom [] term.toList) f.place := by
  obtain ⟨⟨term, target⟩, hterm, hplace⟩ := List.mem_flatMap.1 (mem_collect_of_mem_kept hf)
  obtain ⟨rfl, hstands⟩ := standsAt_of_mem_places hplace
  exact ⟨term, hterm, hstands⟩

/-! ### What is kept lies apart -/

theorem Found.startsBefore_trans (f g k : Found) (hfg : f.startsBefore g = true)
    (hgk : g.startsBefore k = true) : f.startsBefore k = true := by
  simp only [startsBefore, decide_eq_true_eq] at *
  omega

theorem Found.startsBefore_total (f g : Found) : (f.startsBefore g || g.startsBefore f) = true := by
  simp only [startsBefore, Bool.or_eq_true, decide_eq_true_eq]
  omega

theorem Found.overlaps_comm (f g : Found) : f.overlaps g = g.overlaps f := by
  unfold overlaps
  rw [Bool.decide_and, Bool.decide_and, Bool.and_comm]

/-- A term that is kept overlaps none that has been kept. -/
theorem pairwise_keep {kept : List Found} (h : kept.Pairwise fun f g => f.overlaps g = false)
    (f : Found) : (keep kept f).Pairwise fun f g => f.overlaps g = false := by
  unfold keep
  split
  · exact h
  · rename_i hnone
    refine List.pairwise_append.2 ⟨h, List.pairwise_singleton _ f, fun g hg f' hf' => ?_⟩
    rw [List.mem_singleton.1 hf', ← Bool.not_eq_true]
    exact fun hoverlaps => hnone (List.any_eq_true.2 ⟨g, hg, hoverlaps⟩)

theorem pairwise_foldl_keep {found kept : List Found}
    (h : kept.Pairwise fun f g => f.overlaps g = false) :
    (found.foldl keep kept).Pairwise fun f g => f.overlaps g = false := by
  induction found generalizing kept with
  | nil => exact h
  | cons f found ih => exact ih (pairwise_keep h f)

/-- **The terms that are kept lie one behind the other.** -/
theorem pairwise_kept (h : Hint) (question : String) :
    (kept h question).Pairwise fun f g => f.stop ≤ g.start := by
  have hpositive : ∀ f ∈ kept h question, f.start < f.stop :=
    fun f hf => start_lt_stop (mem_collect_of_mem_kept hf)
  have hapart : (kept h question).Pairwise fun f g => f.overlaps g = false :=
    (List.mergeSort_perm _ _).symm.pairwise (pairwise_foldl_keep .nil)
      fun {f g} hfg => by rw [Found.overlaps_comm, hfg]
  have hsorted : (kept h question).Pairwise fun f g => f.startsBefore g = true :=
    List.pairwise_mergeSort Found.startsBefore_trans Found.startsBefore_total _
  refine (hapart.and hsorted).imp_of_mem fun {f g} hf hg ⟨hfg, hle⟩ => ?_
  have hf := hpositive f hf
  have hg := hpositive g hg
  simp only [Found.overlaps, Found.startsBefore, decide_eq_true_eq, decide_eq_false_iff_not] at hfg hle
  omega

/-- **Two of them share no byte.** -/
theorem apart_of_mem_kept {h : Hint} {question : String} {f g : Found} (hf : f ∈ kept h question)
    (hg : g ∈ kept h question) (hne : f ≠ g) : f.stop ≤ g.start ∨ g.stop ≤ f.start := by
  have hapart : (kept h question).Pairwise fun f g => f.stop ≤ g.start ∨ g.stop ≤ f.start :=
    (pairwise_kept h question).imp Or.inl
  have hsymm : Std.Symm fun f g : Found => f.stop ≤ g.start ∨ g.stop ≤ f.start :=
    ⟨fun _ _ => Or.symm⟩
  exact hapart.forall hf hg hne

end SemanticLayer.Keywords
