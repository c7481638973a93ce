/-
# Filters: the values each dimension is restricted to

Filters are kept in ascending order of their keys, compared by code points, and
every key occurs once, so equal filters are equal lists.
-/

namespace SemanticLayer

/-- Values by dimension name, ascending. -/
structure Filters where
  entries : List (String × List String)
  ascending : entries.Pairwise (·.1 < ·.1)
deriving DecidableEq

namespace Filters

instance : Inhabited Filters := ⟨⟨[], .nil⟩⟩

/-- No filter. -/
def empty : Filters := ⟨[], .nil⟩

/-- Two filters with the same entries are the same. -/
theorem ext {f g : Filters} (h : f.entries = g.entries) : f = g := by
  cases f; cases g; cases h; rfl

/-- Sets the values of `key` to `change` of the values it has. -/
def setEntry (key : String) (change : Option (List String) → List String) :
    List (String × List String) → List (String × List String)
  | [] => [(key, change none)]
  | (k, values) :: rest =>
    if key < k then (key, change none) :: (k, values) :: rest
    else if key = k then (k, change (some values)) :: rest
    else (k, values) :: setEntry key change rest

theorem mem_setEntry {key : String} {change : Option (List String) → List String}
    {entries : List (String × List String)} {e : String × List String}
    (h : e ∈ setEntry key change entries) : e.1 = key ∨ e ∈ entries := by
  induction entries with
  | nil =>
    simp only [setEntry, List.mem_singleton] at h
    exact .inl (by rw [h])
  | cons x rest ih =>
    obtain ⟨k, values⟩ := x
    simp only [setEntry] at h
    split at h
    · cases List.mem_cons.1 h with
      | inl h => exact .inl (by rw [h])
      | inr h => exact .inr h
    · split at h
      · rename_i hk
        cases List.mem_cons.1 h with
        | inl h => exact .inl (by rw [h]; exact hk.symm)
        | inr h => exact .inr (List.mem_cons_of_mem _ h)
      · cases List.mem_cons.1 h with
        | inl h => exact .inr (by rw [h]; exact List.mem_cons_self)
        | inr h => exact (ih h).imp_right (List.mem_cons_of_mem _)

theorem ascending_setEntry (key : String) (change : Option (List String) → List String)
    {entries : List (String × List String)} (h : entries.Pairwise (·.1 < ·.1)) :
    (setEntry key change entries).Pairwise (·.1 < ·.1) := by
  induction h with
  | nil => simp [setEntry]
  | @cons x rest hx hrest ih =>
    obtain ⟨k, values⟩ := x
    simp only [setEntry]
    split
    · rename_i hlt
      refine .cons (fun e he => ?_) (.cons hx hrest)
      cases List.mem_cons.1 he with
      | inl he => rw [he]; exact hlt
      | inr he => exact String.lt_trans hlt (hx e he)
    · rename_i hlt
      split
      · exact .cons (fun e he => hx e he) hrest
      · rename_i hne
        refine .cons (fun e he => ?_) ih
        cases mem_setEntry he with
        | inl he => rw [he]; exact Std.lt_of_le_of_ne (String.not_lt.1 hlt) (Ne.symm hne)
        | inr he => exact hx e he

/-- Sets the values of `key` to `change` of the values it has. -/
def update (f : Filters) (key : String) (change : Option (List String) → List String) : Filters :=
  ⟨setEntry key change f.entries, ascending_setEntry key change f.ascending⟩

/-- Gives `key` the values, in place of any it has. -/
def set (f : Filters) (key : String) (values : List String) : Filters :=
  f.update key fun _ => values

/-- Adds values behind those that `key` has. -/
def add (f : Filters) (key : String) (values : List String) : Filters :=
  f.update key fun old => old.getD [] ++ values

/-- The values of a key. -/
def get? (f : Filters) (key : String) : Option (List String) :=
  (f.entries.find? (·.1 == key)).map (·.2)

/-- The keys, ascending. -/
def keys (f : Filters) : List String := f.entries.map (·.1)

/-- Changes the values of every key and leaves the keys. -/
def mapValues (f : Filters) (change : List String → List String) : Filters where
  entries := f.entries.map fun e => (e.1, change e.2)
  ascending := List.pairwise_map.2 f.ascending

end Filters

end SemanticLayer
