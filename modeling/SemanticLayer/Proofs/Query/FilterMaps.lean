import SemanticLayer.Query.Filters

/-
# Filters as maps from keys to values

What `Filters.get?` finds under a key, for each way in which filters are built:

| built by | found under a key |
| --- | --- |
| `update key change` | under `key` the change of what was there, under others what was there |
| `add key values` | under `key` the values behind those that were there |
| `mapValues change` | the change of what was there |

Because keys ascend, an entry is found under its key (`Filters.get?_eq_some`).
-/

namespace SemanticLayer.Filters

variable {f : Filters} {k : String} {values : List String}

/-- **What is found under a key is its entry.** -/
theorem get?_eq_some : f.get? k = some values ↔ (k, values) ∈ f.entries := by
  have hfind : ∀ {entries : List (String × List String)}, entries.Pairwise (·.1 < ·.1) →
      (k, values) ∈ entries → entries.find? (·.1 == k) = some (k, values) := by
    intro entries h hmem
    induction h with
    | nil => cases hmem
    | @cons e rest he _ ih =>
      rcases List.mem_cons.1 hmem with rfl | hmem
      · exact List.find?_cons_of_pos (beq_self_eq_true k)
      · have hne : e.1 ≠ k := fun heq => Std.lt_irrefl (heq ▸ he (k, values) hmem)
        rw [List.find?_cons_of_neg (by simpa using hne)]
        exact ih hmem
  constructor
  · intro h
    obtain ⟨⟨key, found⟩, hentry, rfl⟩ := Option.map_eq_some_iff.1 h
    obtain rfl : key = k := by simpa using List.find?_some hentry
    exact List.mem_of_find?_eq_some hentry
  · exact fun h => Option.map_eq_some_iff.2 ⟨_, hfind f.ascending h, rfl⟩

theorem mem_keys : k ∈ f.keys ↔ ∃ values, f.get? k = some values := by
  simp only [keys, List.mem_map, get?_eq_some, Prod.exists, exists_and_right, exists_eq_right]

/-- The first entry is found under its key, the others under theirs. -/
theorem find?_key_cons (key : String) (values : List String) (rest : List (String × List String))
    (k : String) : ((key, values) :: rest).find? (·.1 == k) =
      if key = k then some (key, values) else rest.find? (·.1 == k) := by
  by_cases h : key = k
  · rw [if_pos h, List.find?_cons_of_pos (by simpa using h)]
  · rw [if_neg h, List.find?_cons_of_neg (by simpa using h)]

/-- **An entry that is set** is found under its key, and all others as before. -/
theorem find?_setEntry (key : String) (change : Option (List String) → List String)
    {entries : List (String × List String)} (h : entries.Pairwise (·.1 < ·.1)) (k : String) :
    (setEntry key change entries).find? (·.1 == k) =
      if key = k then some (key, change ((entries.find? (·.1 == key)).map (·.2)))
      else entries.find? (·.1 == k) := by
  induction h with
  | nil =>
    rw [setEntry, find?_key_cons]
    rfl
  | @cons e rest he _ ih =>
    obtain ⟨other, old⟩ := e
    rw [setEntry]
    split
    · -- the key is not there, because the others are behind it
      rename_i hlt
      have hnone : ((other, old) :: rest).find? (·.1 == key) = none := by
        refine List.find?_eq_none.2 fun e hmem => ?_
        have hbehind : key < e.1 := by
          rcases List.mem_cons.1 hmem with rfl | hmem
          · exact hlt
          · exact String.lt_trans hlt (he e hmem)
        simpa using fun heq => Std.lt_irrefl (heq ▸ hbehind)
      rw [find?_key_cons, hnone]
      rfl
    · split
      · rename_i hsame
        subst hsame
        simp only [find?_key_cons, if_true, Option.map_some]
        split
        · rfl
        · rfl
      · rename_i hother
        have hne : ¬ other = key := Ne.symm hother
        simp only [find?_key_cons, if_neg hne, ih]
        by_cases hk : other = k
        · have hdiffers : ¬ key = k := fun heq => hother (heq.trans hk.symm)
          rw [if_pos hk, if_neg hdiffers, if_pos hk]
        · rw [if_neg hk, if_neg hk]

/-- **Only the values of the key that is updated change.** -/
theorem get?_update (f : Filters) (key : String) (change : Option (List String) → List String)
    (k : String) :
    (f.update key change).get? k = if key = k then some (change (f.get? key)) else f.get? k := by
  rw [get?, update, find?_setEntry key change f.ascending]
  split
  · rfl
  · rfl

/-- **Values are added behind those that a key has.** -/
theorem get?_add (f : Filters) (key : String) (values : List String) (k : String) :
    (f.add key values).get? k =
      if key = k then some ((f.get? key).getD [] ++ values) else f.get? k :=
  get?_update f key _ k

/-- **What holds of joined lists exactly if it holds of one of them** holds of the values under a
key exactly if it did before or holds of what is added under that key. -/
theorem exists_get?_add {P : List String → Prop}
    (hP : ∀ old values, P (old ++ values) ↔ P old ∨ P values) {key : String} :
    (∃ found, (f.add key values).get? k = some found ∧ P found) ↔
      (∃ found, f.get? k = some found ∧ P found) ∨ key = k ∧ P values := by
  rw [get?_add]
  by_cases h : key = k
  · subst h
    cases f.get? key with
    | none => simp
    | some old => simp [hP]
  · simp [h]

theorem get?_mapValues (f : Filters) (change : List String → List String) (k : String) :
    (f.mapValues change).get? k = (f.get? k).map change := by
  simp only [get?, mapValues, List.find?_map, Option.map_map]
  rfl

end SemanticLayer.Filters
