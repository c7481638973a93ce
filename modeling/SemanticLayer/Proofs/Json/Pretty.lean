import SemanticLayer.Proofs.Json.RoundTrip

/-
# Values line by line

For readers, a value is written with a line for each element of a list and each
entry of an object:

| part | written |
| --- | --- |
| element or entry | on a line of its own, two blanks further in than what holds it |
| key and value | with a colon and a blank between them |
| closing bracket | on a line of its own, unless the list or the object is empty |

The lines are a text of the value (`Plain.laid_pretty`), so they are read as the
text without blanks is.
-/

namespace SemanticLayer.Json

open Scan (Blanks)

/-- A line feed, then two blanks for each bracket that is open. -/
def newLine (level : Nat) : List Char := '\n' :: List.replicate (2 * level) ' '

mutual

/-- The lines of a value inside of `level` brackets. -/
def prettyChars (level : Nat) : Json → List Char
  | list [] => ['[', ']']
  | list (j :: rest) =>
    '[' :: (newLine (level + 1) ++ prettyChars (level + 1) j ++ prettyItems (level + 1) rest ++
      newLine level ++ [']'])
  | object [] => ['\x7b', '\x7d']
  | object ((key, j) :: rest) =>
    '\x7b' :: (newLine (level + 1) ++ writeString key ++ [':', ' '] ++ prettyChars (level + 1) j ++
      prettyEntries (level + 1) rest ++ newLine level ++ ['\x7d'])
  | null => null.writeChars
  | bool b => (bool b).writeChars
  | int n => (int n).writeChars
  | float x => (float x).writeChars
  | string s => (string s).writeChars

/-- The lines of the elements behind the first. -/
def prettyItems (level : Nat) : List Json → List Char
  | [] => []
  | j :: rest => ',' :: (newLine level ++ prettyChars level j) ++ prettyItems level rest

/-- The lines of the entries behind the first. -/
def prettyEntries (level : Nat) : List (String × Json) → List Char
  | [] => []
  | (key, j) :: rest =>
    ',' :: (newLine level ++ writeString key ++ [':', ' '] ++ prettyChars level j) ++
      prettyEntries level rest

end

/-- The text of a value, line by line. -/
def writePretty (j : Json) : String := String.ofList (j.prettyChars 0)

theorem blanks_newLine (level : Nat) : Blanks (newLine level) := by
  intro ch hch
  rcases List.mem_cons.1 hch with rfl | hch
  · rfl
  · rw [(List.mem_replicate.1 hch).2]
    rfl

/-- The entry of a key, with a blank behind its colon. -/
theorem LaidEntry.spaced {T : Json → List Char → Prop} {key : String} {j : Json} {cs : List Char}
    (h : T j cs) : LaidEntry T (key, j) (writeString key ++ ':' :: ' ' :: cs) :=
  .mk (b := []) (c := [' ']) .nil (List.forall_mem_singleton.2 rfl) h

theorem prettyItems_eq (level : Nat) (items : List Json) :
    prettyItems level items = items.flatMap fun j => ',' :: (newLine level ++ j.prettyChars level) := by
  induction items with
  | nil => rfl
  | cons j items ih => simp [prettyItems, ih]

theorem prettyEntries_eq (level : Nat) (entries : List (String × Json)) :
    prettyEntries level entries = entries.flatMap fun e =>
      ',' :: (newLine level ++ (writeString e.1 ++ ':' :: ' ' :: e.2.prettyChars level)) := by
  induction entries with
  | nil => rfl
  | cons e entries ih => simp [prettyEntries, ih]

/-- **The lines of a value are a text of it.** -/
theorem Plain.laid_pretty {n : Nat} {j : Json} (h : Plain n j) (level : Nat) :
    Laid j (j.prettyChars level) := by
  induction h generalizing level with
  | null => exact .null
  | bool b => exact .bool b
  | string s => exact .string s
  | @list n items _ ih =>
    cases items with
    | nil => exact .list (.nil .nil)
    | cons j items =>
      obtain ⟨hj, hitems⟩ := List.forall_mem_cons.1 ih
      have hlines : (Json.list (j :: items)).prettyChars level =
          '[' :: (newLine (level + 1) ++ (j.prettyChars (level + 1) ++
            (prettyItems (level + 1) items ++ newLine level)) ++ [']']) := by simp [prettyChars]
      rw [hlines]
      refine .list (.cons (blanks_newLine _) (hj _) ?_)
      rw [prettyItems_eq]
      exact .spaced (blanks_newLine _) (blanks_newLine _) fun x hx => hitems x hx _
  | @object n entries _ ih =>
    cases entries with
    | nil => exact .object (.nil .nil)
    | cons e entries =>
      obtain ⟨key, j⟩ := e
      obtain ⟨hj, hentries⟩ := List.forall_mem_cons.1 ih
      have hlines : (Json.object ((key, j) :: entries)).prettyChars level =
          '\x7b' :: (newLine (level + 1) ++
            ((writeString key ++ ':' :: ' ' :: j.prettyChars (level + 1)) ++
              (prettyEntries (level + 1) entries ++ newLine level)) ++ ['\x7d']) := by
        simp [prettyChars]
      rw [hlines]
      refine .object (.cons (blanks_newLine _) (.spaced (hj _)) ?_)
      rw [prettyEntries_eq]
      exact .spaced (blanks_newLine _) (blanks_newLine _) fun e he => .spaced (hentries e he _)

end SemanticLayer.Json
