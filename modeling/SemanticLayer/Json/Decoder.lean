import SemanticLayer.Json.Scan

/-
# Decoders: documents as values of their own types

A decoder reads a value of its type in two ways: straight from JSON text, where
the first problem in text order is reported with its place, and from a value
that has been read already, where problems have no place.  A value read already
is either a document of its own or a part of a text that was set aside; the two
differ in a few messages.

| decoder | accepts |
| --- | --- |
| `text` | strings |
| `spelled` | strings that spell a value |
| `optional` | null, or what another decoder accepts |
| `list`, `table` | lists, and objects whose values another decoder accepts |
| `choice` | a name of a constant, alone or as the key of null |
| `oneOrMany` | a string or a list of strings |
| `record` | an object with the fields of a record, or a list of them in order |
-/

namespace SemanticLayer.Json

/-- Where a value that has been read already comes from. -/
inductive Origin where
  /-- A document of its own. -/
  | document
  /-- A part of a text that was set aside before it was understood. -/
  | setAside
deriving DecidableEq

/-- How a value of a type is read. -/
structure Decoder (α : Type) where
  /-- Reads from text; the number bounds the brackets that may be open. -/
  scan : Nat → Scan α
  /-- Reads from a value. -/
  ofJson : Origin → Json → Except Flaw α

namespace Decoder

/-- Changes what is read. -/
def map {α β : Type} (f : α → β) (d : Decoder α) : Decoder β where
  scan depth := f <$> d.scan depth
  ofJson origin j := f <$> d.ofJson origin j

/-- A string that spells a value. -/
def spelled {α : Type} (expected : String) (spell : String → Except Flaw α) : Decoder α where
  scan _ := do
    match ← Scan.peek with
    | none => Scan.fail .endInValue
    | some '"' => Scan.placed do Scan.ofExcept (spell (← Scan.quotedString))
    | some _ => Scan.unexpected expected
  ofJson _
    | .string s => spell s
    | j => .error (.unexpected j expected)

/-- A string. -/
def text : Decoder String := spelled "a string" .ok

/-- Null, or a value. -/
def optional {α : Type} (d : Decoder α) : Decoder (Option α) where
  scan depth := do
    match ← Scan.peek with
    | some 'n' => do
      Scan.eat
      Scan.word ['u', 'l', 'l']
      return none
    | _ => some <$> d.scan depth
  ofJson origin
    | .null => .ok none
    | j => some <$> d.ofJson origin j

/-- A value, or the default for null. -/
def orDefault {α : Type} (default : α) (d : Decoder α) : Decoder α :=
  (optional d).map (·.getD default)

/-- A list. -/
def list {α : Type} (d : Decoder α) : Decoder (List α) where
  scan depth := do
    match ← Scan.peek with
    | none => Scan.fail .endInValue
    | some '[' =>
      Scan.inList depth fun depth => do
        let items ← Scan.foldElements (fun items => do return (← d.scan depth) :: items)
          (← Scan.budget) true []
        return items.reverse
    | some _ => Scan.unexpected "a sequence"
  ofJson origin
    | .list items => items.mapM (d.ofJson origin)
    | j => .error (.unexpected j "a sequence")

/-- An object with any keys, folded in the order of its entries. -/
def table {α σ : Type} (d : Decoder α) (start : σ) (put : σ → String → α → σ) : Decoder σ where
  scan depth := do
    match ← Scan.peek with
    | none => Scan.fail .endInValue
    | some '\x7b' =>
      Scan.inObject depth fun depth => do
        Scan.foldEntries (fun s key => do
          Scan.colon
          return put s key (← d.scan depth)) (← Scan.budget) true start
    | some _ => Scan.unexpected "a map"
  ofJson origin
    | .object entries => entries.foldlM (fun s e => do return put s e.1 (← d.ofJson origin e.2)) start
    | j => .error (.unexpected j "a map")

/-- A string, or a list of strings; `name` is what messages call the two forms. -/
def oneOrMany (name : String) : Decoder (List String) where
  scan depth := do Scan.ofExcept (forms (← Scan.value depth))
  ofJson _ j := forms j
where
  /-- The strings of either form. -/
  forms (j : Json) : Except Flaw (List String) :=
    match j with
    | .string s => .ok [s]
    | .list items =>
      match items.mapM Json.string? with
      | some values => .ok values
      | none => .error (.noForm name)
    | _ => .error (.noForm name)

/-- Reads null. -/
def unit : Decoder Unit where
  scan _ := do
    match ← Scan.peek with
    | none => Scan.fail .endInValue
    | some 'n' => do
      Scan.eat
      Scan.word ['u', 'l', 'l']
    | some _ => Scan.unexpected "unit"
  ofJson origin
    | .null => .ok ()
    | j => if origin = .setAside ∧ isEmptyObject j then .ok () else .error (.unexpected j "unit")
where
  /-- Whether a value is the empty object. -/
  isEmptyObject : Json → Bool
    | .object [] => true
    | _ => false

/-- The constant of a name. -/
def constant {α : Type} (constants : List (List String × α)) (name : String) : Except Flaw α :=
  match constants.find? (·.1.contains name) with
  | some (_, a) => .ok a
  | none => .error (.unknownVariant name (constants.flatMap (·.1)))

/-- The name of a constant. -/
def constantName {α : Type} (constants : List (List String × α)) : Decoder α :=
  spelled "variant identifier" (constant constants)

/-- A constant, given by one of its names: alone, or as the only key of an object, over null. -/
def choice {α : Type} (constants : List (List String × α)) : Decoder α where
  scan depth := do
    match ← Scan.peek with
    | none => Scan.fail .endInValue
    | some '"' => (constantName constants).scan depth
    | some '\x7b' =>
      if depth ≤ 1 then Scan.failNext .tooDeep
      else do
        Scan.eat
        let some name ← Scan.nextKey? true | Scan.failNext .expectedValue
        let a ← Scan.placed (Scan.ofExcept (constant constants name))
        Scan.colon
        unit.scan depth
        match ← Scan.peek with
        | some '\x7d' => Scan.eat
        | some _ => Scan.fail .expectedValue
        | none => Scan.fail .endInObject
        return a
    | some _ => Scan.failNext .expectedValue
  ofJson origin
    | .string name => constant constants name
    | .object [(name, j)] => do
      let a ← constant constants name
      unit.ofJson origin j
      return a
    | .object _ => .error (.wrongValue "map" "map with a single key")
    | j => .error (.unexpected j "string or map")

/-! ### Records -/

/-- A field of a record `ρ`: its names, the first of which is shown in messages, whether it has to
be there, and how its value is put into the record. -/
structure Field (ρ : Type) where
  names : List String
  required : Bool
  value : Decoder (ρ → ρ)

/-- A field that has to be there. -/
def Field.needed {ρ α : Type} (name : String) (d : Decoder α) (put : α → ρ → ρ) : Field ρ :=
  ⟨[name], true, d.map put⟩

/-- A field that may be left out. -/
def Field.spare {ρ α : Type} (names : List String) (d : Decoder α) (put : α → ρ → ρ) : Field ρ :=
  ⟨names, false, d.map put⟩

/-- The name that messages show. -/
def Field.shown {ρ : Type} (f : Field ρ) : String := f.names.headD ""

/-- A record under way: what has been put into it and the fields that have been seen. -/
structure Partial (ρ : Type) where
  record : ρ
  seen : List String

/-- The length that a record expects of a list. -/
def lengthText (what : String) (n : Nat) : String :=
  what ++ " with " ++ toString n ++ (if n = 1 then " element" else " elements")

/-- The record, once no needed field is missing. -/
def Partial.finish {ρ : Type} (fields : List (Field ρ)) (p : Partial ρ) : Except Flaw ρ :=
  match fields.find? fun f => f.required && !p.seen.contains f.shown with
  | some f => .error (.missingField f.shown)
  | none => .ok p.record

/-- Puts the value of a field into the record. -/
def Partial.put {ρ : Type} (p : Partial ρ) (f : Field ρ) (change : ρ → ρ) : Partial ρ :=
  ⟨change p.record, f.shown :: p.seen⟩

/-- The field of a name, unless it has been seen. -/
def Partial.field? {ρ : Type} (fields : List (Field ρ)) (p : Partial ρ) (key : String) :
    Except Flaw (Option (Field ρ)) :=
  match fields.find? (·.names.contains key) with
  | none => .ok none
  | some f => if p.seen.contains f.shown then .error (.duplicateField f.shown) else .ok (some f)

/-- Reads an entry of a record from text, at the colon. -/
def scanEntry {ρ : Type} (fields : List (Field ρ)) (depth : Nat) (p : Partial ρ) (key : String) :
    Scan (Partial ρ) := do
  match ← Scan.ofExcept (p.field? fields key) with
  | some f => do
    Scan.colon
    return p.put f (← f.value.scan depth)
  | none => do
    Scan.colon
    Scan.skipValue
    return p

/-- Reads the fields of a record, from the one with number `i` on, from a list in text. -/
def scanElements {ρ : Type} (expected : String) (depth : Nat) :
    Nat → List (Field ρ) → ρ → Scan ρ
  | _, [], r => pure r
  | i, f :: rest, r => do
    if ← Scan.nextElement (i = 0) then
      scanElements expected depth (i + 1) rest ((← f.value.scan depth) r)
    else if f.required then Scan.failUnplaced (.wrongLength i expected)
    else scanElements expected depth (i + 1) rest r

/-- Reads an entry of a record. -/
def entryOfJson {ρ : Type} (fields : List (Field ρ)) (origin : Origin) (p : Partial ρ)
    (e : String × Json) : Except Flaw (Partial ρ) := do
  match ← p.field? fields e.1 with
  | some f => return p.put f (← f.value.ofJson origin e.2)
  | none => return p

/-- The flaw of a list with more elements than a record has fields. -/
def surplus (origin : Origin) (length fields : Nat) : Flaw :=
  match origin with
  | .document => .wrongLength length "fewer elements in array"
  | .setAside =>
    .wrongLength length (toString fields ++ (if fields = 1 then " element" else " elements") ++
      " in sequence")

/-- Reads the fields of a record, from the one with number `i` on, from a list; gives the elements
that are left. -/
def elementsOfJson {ρ : Type} (expected : String) (origin : Origin) :
    Nat → List (Field ρ) → List Json → ρ → Except Flaw (ρ × List Json)
  | _, [], rest, r => .ok (r, rest)
  | i, f :: fields, j :: rest, r => do
    elementsOfJson expected origin (i + 1) fields rest ((← f.value.ofJson origin j) r)
  | i, f :: fields, [], r =>
    if f.required then .error (.wrongLength i expected)
    else elementsOfJson expected origin (i + 1) fields [] r

/-- A record; `what` is what messages call it and `start` holds the values of absent fields. -/
def record {ρ : Type} (what : String) (fields : List (Field ρ)) (start : ρ) : Decoder ρ where
  scan depth := do
    match ← Scan.peek with
    | none => Scan.fail .endInValue
    | some '[' =>
      Scan.inList depth fun depth => scanElements (lengthText what fields.length) depth 0 fields start
    | some '\x7b' =>
      Scan.inObject depth fun depth => do
        let p ← Scan.foldEntries (scanEntry fields depth) (← Scan.budget) true ⟨start, []⟩
        Scan.ofExcept (p.finish fields)
    | some _ => Scan.unexpected what
  ofJson origin
    | .object entries => do
      let p ← entries.foldlM (entryOfJson fields origin) ⟨start, []⟩
      p.finish fields
    | .list items => do
      let (r, rest) ← elementsOfJson (lengthText what fields.length) origin 0 fields items start
      if rest.isEmpty then return r else throw (surplus origin items.length fields.length)
    | j => .error (.unexpected j what)

/-! ### Tagged values -/

/-- Reads an entry of a tagged object at the colon: its constant under the key `tag`, any other
entry as it is. -/
def scanTaggedEntry {α : Type} (tag : String) (constants : List (List String × α)) (depth : Nat)
    (found : Option α × List (String × Json)) (key : String) :
    Scan (Option α × List (String × Json)) := do
  if key = tag then
    if found.1.isSome then Scan.failUnplaced (.duplicateField tag)
    else
      Scan.colon
      return (some (← (constantName constants).scan depth), found.2)
  else
    Scan.colon
    return (found.1, (key, ← Scan.value depth) :: found.2)

/-- Reads a constant and what stands beside it: an object with the constant under the key `tag`,
or a list that starts with it.  The other entries or elements are not understood yet. -/
def scanTagged {α : Type} (what tag : String) (constants : List (List String × α)) (depth : Nat) :
    Scan (α × Json) := do
  match ← Scan.peek with
  | none => Scan.fail .endInValue
  | some '[' =>
    Scan.inList depth fun depth => do
      if ← Scan.nextElement true then
        let a ← (constantName constants).scan depth
        let items ← Scan.foldElements (fun items => do return (← Scan.value depth) :: items)
          (← Scan.budget) false []
        return (a, .list items.reverse)
      else Scan.failUnplaced (.missingField tag)
  | some '\x7b' =>
    Scan.inObject depth fun depth => do
      match ← Scan.foldEntries (scanTaggedEntry tag constants depth) (← Scan.budget) true (none, [])
        with
      | (some a, entries) => return (a, .object entries.reverse)
      | (none, _) => Scan.failUnplaced (.missingField tag)
  | some _ => Scan.unexpected what

/-- Reads a whole text. -/
def read {α : Type} (d : Decoder α) (s : String) : Except Problem α := (d.scan depthLimit).run s

end Decoder

end SemanticLayer.Json
