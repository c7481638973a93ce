import SemanticLayer.Proofs.Catalog.Resolution
import SemanticLayer.Proofs.Requirement

/-
# Terms that are ambiguous

A term that no entry is named like may still be the label or a synonym of
entries, and of more than one.  This is the only way in which a term stands for
nothing (`Entry.needs_resolve`); its error lists all of these entries by name.
-/

namespace SemanticLayer

namespace Entry

/-- No entry is named like a term, letter case aside, and more than one goes by it. -/
def Ambiguous (entries : List Entry) (term : String) : Prop :=
  (∀ e ∈ entries, Text.lower e.name ≠ fold term) ∧ 1 < entries.countP (goesBy (fold term))

/-- A term is asked not to be ambiguous. -/
def unambiguous (entries : List Entry) (term : String) : Requirement CatalogError :=
  ⟨¬ Ambiguous entries term,
    .ambiguousSynonym term ((entries.filter (goesBy (fold term))).map name)⟩

/-- **A term stands for a name unless it is ambiguous.** -/
theorem needs_resolve (entries : List Entry) (term : String) :
    Needs [unambiguous entries term] (resolve entries term) := by
  have hnamed : (∀ e ∈ entries, Text.lower e.name ≠ fold term) ↔
      entries.find? (fun e => Text.lower e.name == fold term) = none := by
    simp [List.find?_eq_none]
  have hmany : ∀ {names : List String}, (entries.filter (goesBy (fold term))).map name = names →
      entries.countP (goesBy (fold term)) = names.length := by
    rintro _ rfl
    rw [List.length_map, List.countP_eq_length_filter]
  refine Needs.single (fun hone => ?_) fun hambiguous => ?_
  · unfold resolve
    dsimp only
    split
    · exact ⟨_, rfl⟩
    · rename_i hnone
      split
      · exact ⟨_, rfl⟩
      · exact ⟨_, rfl⟩
      · rename_i hnil hsingle
        refine absurd ⟨hnamed.2 hnone, ?_⟩ hone
        rw [hmany rfl]
        match hnames : (entries.filter (goesBy (fold term))).map name with
        | [] => exact absurd hnames hnil
        | [other] => exact absurd hnames (hsingle other)
        | _ :: _ :: _ => simp
  · obtain ⟨hnone, hseveral⟩ := Classical.not_not.1 hambiguous
    unfold resolve
    simp only [hnamed.1 hnone]
    split
    · rename_i hnil
      rw [hmany hnil] at hseveral
      cases hseveral
    · rename_i other hsingle
      rw [hmany hsingle] at hseveral
      exact absurd hseveral (Nat.lt_irrefl 1)
    · rfl

/-- Outer blanks do not count. -/
theorem ambiguous_trim {entries : List Entry} {term : String} :
    Ambiguous entries (Text.trim term) ↔ Ambiguous entries term := by
  unfold Ambiguous fold
  rw [Text.trim_trim]

end Entry

end SemanticLayer
