import SemanticLayer.Json.Flaw

/-
# Scanning JSON text

A scanner reads from a cursor and either gives a value or stops at a problem;
in both cases it says where it stands.  A problem found at the next character
is placed behind that character, one found on what was read is placed where
reading stands.
-/

namespace SemanticLayer.Json

/-- What is left of a text, and the place reached in it. -/
structure Cursor where
  rest : List Char
  line : Nat
  column : Nat
  /-- Bound on the number of characters left; it bounds every loop of a scanner. -/
  budget : Nat

namespace Cursor

/-- The start of a text. -/
def start (cs : List Char) : Cursor := ⟨cs, 1, 0, cs.length + 1⟩

/-- The place where reading stands. -/
def place (c : Cursor) : Place := ⟨c.line, c.column⟩

/-- Moves past one byte of the next character, for the place of a problem. -/
def placeAfterByte (c : Cursor) : Place :=
  match c.rest with
  | [] => c.place
  | '\n' :: _ => ⟨c.line + 1, 0⟩
  | _ => ⟨c.line, c.column + 1⟩

/-- Moves past the next character. -/
def advance (c : Cursor) : Cursor :=
  match c.rest with
  | [] => c
  | '\n' :: rest => { c with rest, line := c.line + 1, column := 0 }
  | ch :: rest => { c with rest, column := c.column + ch.utf8Size }

/-- Moves past up to `n` characters. -/
def skip : Nat → Cursor → Cursor
  | 0, c => c
  | n + 1, c => skip n c.advance

end Cursor

/-- A scanner: from a cursor to a value or a problem, and the cursor reached. -/
def Scan (α : Type) := Cursor → Except Problem α × Cursor

namespace Scan

instance : Monad Scan where
  pure a := fun c => (.ok a, c)
  bind x f := fun c =>
    match x c with
    | (.ok a, c) => f a c
    | (.error p, c) => (.error p, c)

instance {α : Type} : Inhabited (Scan α) := ⟨fun c => (.error ⟨.endInValue, none⟩, c)⟩

/-- Stops at a problem where reading stands. -/
def fail {α : Type} (flaw : Flaw) : Scan α := fun c => (.error ⟨flaw, some c.place⟩, c)

/-- Stops at a problem with the next character. -/
def failNext {α : Type} (flaw : Flaw) : Scan α := fun c => (.error ⟨flaw, some c.placeAfterByte⟩, c)

/-- Stops at a problem whose place is not known yet. -/
def failUnplaced {α : Type} (flaw : Flaw) : Scan α := fun c => (.error ⟨flaw, none⟩, c)

/-- Gives a problem without a place the place where reading stands. -/
def placed {α : Type} (x : Scan α) : Scan α := fun c =>
  match x c with
  | (.error ⟨flaw, none⟩, c) => (.error ⟨flaw, some c.place⟩, c)
  | r => r

/-- Accepts or rejects without reading. -/
def ofExcept {α : Type} : Except Flaw α → Scan α
  | .ok a => pure a
  | .error flaw => failUnplaced flaw

/-- Runs `close` after `visit` even when that stops at a problem; the problem of `visit` counts first. -/
def closing {α : Type} (visit : Scan α) (close : Scan Unit) : Scan α := fun c =>
  let (r, c) := visit c
  let (e, c) := close c
  match r, e with
  | .error p, _ => (.error p, c)
  | .ok _, .error p => (.error p, c)
  | .ok a, .ok () => (.ok a, c)

/-- The bound on loops. -/
def budget : Scan Nat := fun c => (.ok c.budget, c)

/-- The next character. -/
def next : Scan (Option Char) := fun c => (.ok c.rest.head?, c)

/-- Moves past the next character. -/
def eat : Scan Unit := fun c => (.ok (), c.advance)

/-- Whether a character may stand between tokens. -/
def isBlank (ch : Char) : Bool := ch == ' ' || ch == '\n' || ch == '\t' || ch == '\r'

/-- Moves past blanks and gives the character that follows. -/
def peek : Scan (Option Char) := fun c =>
  let c := c.skip (c.rest.takeWhile isBlank).length
  (.ok c.rest.head?, c)

/-- Moves past the characters that satisfy `p` and gives them. -/
def takeWhile (p : Char → Bool) : Scan (List Char) := fun c =>
  let taken := c.rest.takeWhile p
  (.ok taken, c.skip taken.length)

/-- Reads the rest of `null`, `true` or `false`. -/
def word : List Char → Scan Unit
  | [] => pure ()
  | expected :: more => do
    match ← next with
    | none => fail .endInValue
    | some ch => if ch = expected then do eat; word more else failNext .expectedWord

/-! ### Strings -/

/-- The value of a hexadecimal digit. -/
def hexValue? (ch : Char) : Option Nat :=
  if ch.isDigit then some (ch.toNat - 48)
  else if 'a' ≤ ch ∧ ch ≤ 'f' then some (ch.toNat - 87)
  else if 'A' ≤ ch ∧ ch ≤ 'F' then some (ch.toNat - 55)
  else none

/-- The value of hexadecimal digits. -/
def hexNumber? (cs : List Char) : Option Nat :=
  cs.foldl (fun n ch => do return (← n) * 16 + (← hexValue? ch)) (some 0)

/-- The bytes that characters take up; true for line feeds. -/
def byteMarks (cs : List Char) : List Bool :=
  cs.flatMap fun ch => if ch = '\n' then [true] else List.replicate ch.utf8Size false

/-- Moves a place past bytes. -/
def placePast (p : Place) (marks : List Bool) : Place :=
  marks.foldl (fun p lineFeed => if lineFeed then ⟨p.line + 1, 0⟩ else ⟨p.line, p.column + 1⟩) p

/-- Reads the four digits of an escape. -/
def fourHex : Scan Nat := fun c =>
  let four := c.rest.take 4
  let marks := (byteMarks four).take 4
  let fault (flaw : Flaw) : Except Problem Nat := .error ⟨flaw, some (placePast c.place marks)⟩
  if marks.length < 4 then (fault .endInString, c)
  else
    match hexNumber? four with
    | some n => (.ok n, c.skip 4)
    | none => (fault .invalidEscape, c)

/-- Reads a character that has to follow a first half of a surrogate pair. -/
def pairMark (expected : Char) : Scan Unit := do
  match ← next with
  | none => fail .endInString
  | some ch => if ch = expected then eat else failNext .openSurrogate

/-- Reads the rest of a `\u` escape. -/
def unicodeEscape : Scan Char := do
  let n ← fourHex
  if 0xDC00 ≤ n ∧ n ≤ 0xDFFF then fail .loneSurrogate
  else if 0xD800 ≤ n ∧ n ≤ 0xDBFF then
    pairMark '\\'
    pairMark 'u'
    let m ← fourHex
    if 0xDC00 ≤ m ∧ m ≤ 0xDFFF then
      pure (Char.ofNat (0x10000 + (n - 0xD800) * 0x400 + (m - 0xDC00)))
    else fail .loneSurrogate
  else pure (Char.ofNat n)

/-- The character that a one-letter escape stands for. -/
def escape? : Char → Option Char
  | '"' => some '"'
  | '\\' => some '\\'
  | '/' => some '/'
  | 'b' => some '\x08'
  | 'f' => some '\x0c'
  | 'n' => some '\n'
  | 'r' => some '\r'
  | 't' => some '\t'
  | _ => none

/-- Reads what follows a backslash. -/
def escaped : Scan Char := do
  match ← next with
  | none => fail .endInString
  | some 'u' => do
    eat
    unicodeEscape
  | some ch =>
    match escape? ch with
    | some value => do
      eat
      pure value
    | none => failNext .invalidEscape

/-- Reads the rest of a string, after the characters `done`, last first. -/
def stringRest : Nat → List Char → Scan String
  | 0, _ => fail .endInString
  | fuel + 1, done => do
    match ← next with
    | none => fail .endInString
    | some '"' => do
      eat
      pure (String.ofList done.reverse)
    | some '\\' => do
      eat
      stringRest fuel ((← escaped) :: done)
    | some ch =>
      if ch.toNat < 32 then failNext .controlCharacter
      else do
        eat
        stringRest fuel (ch :: done)

/-- Reads a string, the opening quote included. -/
def quotedString : Scan String := do
  eat
  stringRest (← budget) []

/-- Moves past the rest of a string without looking at the characters it stands for. -/
def skipStringRest : Nat → Scan Unit
  | 0 => fail .endInString
  | fuel + 1 => do
    match ← next with
    | none => fail .endInString
    | some '"' => eat
    | some '\\' => do
      eat
      match ← next with
      | none => fail .endInString
      | some 'u' => do
        eat
        discard fourHex
      | some ch => if (escape? ch).isSome then eat else failNext .invalidEscape
      skipStringRest fuel
    | some ch =>
      if ch.toNat < 32 then fail .controlCharacter
      else do
        eat
        skipStringRest fuel

/-! ### Numbers -/

/-- The digits of a number, kept as a whole number as long as it is below 2^64, and a power of ten. -/
structure Digits where
  significand : Nat
  exponent : Int

/-- The largest significand. -/
def maxSignificand : Nat := Nat.pow 2 64 - 1

/-- Divides by powers of ten until the exponent is in reach, then scales; powers of ten beyond
10^308 make a number too large unless it is zero. -/
def scaleDouble : Nat → Float → Int → Option Float
  | 0, _, _ => some 0
  | fuel + 1, x, e =>
    if e.natAbs ≤ 308 then
      let power := Float.ofScientific 1 false e.natAbs
      if 0 ≤ e then
        let y := x * power
        if y.isInf then none else some y
      else some (x / power)
    else if x == 0 then some x
    else if 0 ≤ e then none
    else scaleDouble fuel (x / Float.ofScientific 1 false 308) (e + 308)

/-- The double of some digits. -/
def Digits.toDouble (negative : Bool) (d : Digits) : Scan Json :=
  match scaleDouble (d.exponent.natAbs + 1) (Float.ofNat d.significand) d.exponent with
  | some x => pure (.float (if negative then -x else x))
  | none => fail .numberOutOfRange

/-- Adds a digit, unless the significand would grow too large. -/
def Digits.push? (d : Digits) (ch : Char) : Option Digits :=
  let n := d.significand * 10 + (ch.toNat - 48)
  if n ≤ maxSignificand then some { d with significand := n } else none

/-- Reads digits into a significand up to the first that does not fit. -/
def pushDigits (perDigit : Int) : List Char → Digits → Digits × List Char
  | [], d => (d, [])
  | ch :: rest, d =>
    match d.push? ch with
    | some d => pushDigits perDigit rest { d with exponent := d.exponent + perDigit }
    | none => (d, ch :: rest)

/-- Reads the exponent of a number, the letter included. -/
def exponent (negative : Bool) (d : Digits) : Scan Json := do
  eat
  let below ← match ← next with
    | some '+' => do
      eat
      pure false
    | some '-' => do
      eat
      pure true
    | _ => pure false
  match ← next with
  | none => fail .endInValue
  | some ch =>
    if !ch.isDigit then failNext .invalidNumber
    else
      let digits ← takeWhile Char.isDigit
      let e : Nat := digits.foldl (fun n d => n * 10 + (d.toNat - 48)) 0
      if e > 2147483647 then
        if d.significand ≠ 0 ∧ !below then exponentTooLarge digits
        else pure (.float (if negative then -0.0 else 0.0))
      else
        let shift : Int := if below then -(e : Int) else e
        ({ d with exponent := d.exponent + shift } : Digits).toDouble negative
where
  /-- Stops behind the digit that makes the exponent too large. -/
  exponentTooLarge (digits : List Char) : Scan Json := fun c =>
    let extra := digits.length - (countUntilLarge digits 0 0)
    (.error ⟨.numberOutOfRange, some ⟨c.line, c.column - extra⟩⟩, c)
  /-- How many digits it takes to pass the largest exponent. -/
  countUntilLarge : List Char → Nat → Nat → Nat
    | [], _, k => k
    | ch :: rest, n, k =>
      let n := n * 10 + (ch.toNat - 48)
      if n > 2147483647 then k + 1 else countUntilLarge rest n (k + 1)

/-- Reads the decimals of a number, the point included. -/
def decimals (negative : Bool) (d : Digits) : Scan Json := do
  eat
  let digits ← takeWhile Char.isDigit
  if digits.isEmpty then
    match ← next with
    | none => fail .endInValue
    | some _ => failNext .invalidNumber
  else
    let d := (pushDigits (-1) digits d).1
    match ← next with
    | some 'e' | some 'E' => exponent negative d
    | _ => d.toDouble negative

/-- The number made of whole digits alone. -/
def wholeNumber (negative : Bool) (n : Nat) : Json :=
  if !negative then .int n
  else if n = 0 then .float (-0.0)
  else if n ≤ Nat.pow 2 63 then .int (-(n : Int))
  else .float (-(Float.ofNat n))

/-- Reads a number after its sign. -/
def number (negative : Bool) : Scan Json := do
  match ← next with
  | none => fail .endInValue
  | some ch =>
    if !ch.isDigit then failNext .invalidNumber
    else if ch = '0' then
      eat
      match ← next with
      | some ch => if ch.isDigit then failNext .invalidNumber else numberTail ⟨0, 0⟩ true
      | none => numberTail ⟨0, 0⟩ true
    else
      let digits ← takeWhile Char.isDigit
      let (d, dropped) := pushDigits 0 digits ⟨0, 0⟩
      numberTail { d with exponent := dropped.length } dropped.isEmpty
where
  /-- Reads what follows the whole digits; `whole` when all of them are in the significand. -/
  numberTail (d : Digits) (whole : Bool) : Scan Json := do
    match ← next with
    | some '.' => decimals negative d
    | some 'e' | some 'E' => exponent negative d
    | _ => if whole then pure (wholeNumber negative d.significand) else d.toDouble negative

/-- Moves past an exponent, the letter included. -/
def skipExponent : Scan Unit := do
  eat
  match ← next with
  | some '+' | some '-' => eat
  | _ => pure ()
  match ← next with
  | some ch => if ch.isDigit then discard (takeWhile Char.isDigit) else failNext .invalidNumber
  | none => fail .invalidNumber

/-- Moves past a number after its sign, without regard to its size. -/
def skipNumber : Scan Unit := do
  match ← next with
  | none => fail .invalidNumber
  | some ch =>
    if !ch.isDigit then failNext .invalidNumber
    else if ch = '0' then
      eat
      match ← next with
      | some ch => if ch.isDigit then failNext .invalidNumber else pure ()
      | none => pure ()
    else discard (takeWhile Char.isDigit)
  match ← next with
  | some '.' => do
    eat
    let digits ← takeWhile Char.isDigit
    if digits.isEmpty then failNext .invalidNumber
    else
      match ← next with
      | some 'e' | some 'E' => skipExponent
      | _ => pure ()
  | some 'e' | some 'E' => skipExponent
  | _ => pure ()

/-! ### Lists and objects -/

/-- Reads the bracket that ends a list. -/
def endList : Scan Unit := do
  match ← peek with
  | some ']' => eat
  | some ',' => do
    eat
    match ← peek with
    | some ']' => failNext .trailingComma
    | _ => failNext .trailingCharacters
  | some _ => failNext .trailingCharacters
  | none => fail .endInList

/-- Reads the brace that ends an object. -/
def endObject : Scan Unit := do
  match ← peek with
  | some '\x7d' => eat
  | some ',' => failNext .trailingComma
  | some _ => failNext .trailingCharacters
  | none => fail .endInObject

/-- Moves to the next element of a list, if there is one. -/
def nextElement (first : Bool) : Scan Bool := do
  match ← peek with
  | some ']' => pure false
  | some ch =>
    if first then pure true
    else if ch = ',' then do
      eat
      match ← peek with
      | some ']' => failNext .trailingComma
      | some _ => pure true
      | none => fail .endInValue
    else failNext .expectedListComma
  | none => fail .endInList

/-- Reads the next key of an object, if there is one. -/
def nextKey? (first : Bool) : Scan (Option String) := do
  match ← peek with
  | some '\x7d' => pure none
  | some ch =>
    if first then
      if ch = '"' then some <$> quotedString else failNext .keyNotString
    else if ch = ',' then do
      eat
      match ← peek with
      | some '"' => some <$> quotedString
      | some '\x7d' => failNext .trailingComma
      | some _ => failNext .keyNotString
      | none => fail .endInValue
    else failNext .expectedObjectComma
  | none => fail .endInObject

/-- Reads the colon between a key and its value. -/
def colon : Scan Unit := do
  match ← peek with
  | some ':' => eat
  | some _ => failNext .expectedColon
  | none => fail .endInObject

/-- Reads what stands in a list, given that the bracket is next; at most `depth` brackets may be open. -/
def inList {α : Type} (depth : Nat) (visit : Nat → Scan α) : Scan α :=
  if depth ≤ 1 then failNext .tooDeep
  else placed do
    eat
    closing (visit (depth - 1)) endList

/-- Reads what stands in an object, given that the brace is next; at most `depth` brackets may be open. -/
def inObject {α : Type} (depth : Nat) (visit : Nat → Scan α) : Scan α :=
  if depth ≤ 1 then failNext .tooDeep
  else placed do
    eat
    closing (visit (depth - 1)) endObject

/-- Folds over the elements of a list, after the bracket. -/
def foldElements {σ : Type} (step : σ → Scan σ) : Nat → Bool → σ → Scan σ
  | 0, _, _ => fail .endInList
  | fuel + 1, first, s => do
    if ← nextElement first then foldElements step fuel false (← step s) else pure s

/-- Folds over the entries of an object, after the brace; `step` is at the colon. -/
def foldEntries {σ : Type} (step : σ → String → Scan σ) : Nat → Bool → σ → Scan σ
  | 0, _, _ => fail .endInObject
  | fuel + 1, first, s => do
    match ← nextKey? first with
    | some key => foldEntries step fuel false (← step s key)
    | none => pure s

/-! ### Any value -/

/-- Reads a value that is not a list or an object, given its first character. -/
def scalar (first : Char) : Scan Json :=
  if first = 'n' then do
    eat
    word ['u', 'l', 'l']
    pure .null
  else if first = 't' then do
    eat
    word ['r', 'u', 'e']
    pure (.bool true)
  else if first = 'f' then do
    eat
    word ['a', 'l', 's', 'e']
    pure (.bool false)
  else if first = '-' then do
    eat
    number true
  else if first.isDigit then number false
  else if first = '"' then Json.string <$> quotedString
  else failNext .expectedValue

/-- Reads any value; at most `depth` brackets may be open. -/
def value (depth : Nat) : Scan Json := do
  match ← peek with
  | none => fail .endInValue
  | some '[' =>
    match depth with
    | 0 => failNext .tooDeep
    | d + 1 => inList (d + 1) fun _ => do
      let items ← foldElements (fun items => do return (← value d) :: items) (← budget) true []
      return .list items.reverse
  | some '\x7b' =>
    match depth with
    | 0 => failNext .tooDeep
    | d + 1 => inObject (d + 1) fun _ => do
      let entries ← foldEntries
        (fun entries key => do
          colon
          return (key, ← value d) :: entries) (← budget) true []
      return .object entries.reverse
  | some ch => scalar ch

/-- Stops because the next value is not what was expected. -/
def unexpected {α : Type} (expected : String) : Scan α := placed do
  match ← next with
  | none => fail .endInValue
  | some '[' => failUnplaced (.unexpected (.list []) expected)
  | some '\x7b' => failUnplaced (.unexpected (.object []) expected)
  | some ch => do
    let found ← scalar ch
    failUnplaced (.unexpected found expected)

/-! ### Skipped values -/

/-- Moves to the next value to be skipped inside the open brackets, or past the last of them.
`after` tells whether a value was just passed. -/
def skipClosing : Nat → Bool → List Bool → Scan (List Bool)
  | 0, _, _ => fail .endInValue
  | _, _, [] => pure []
  | fuel + 1, after, isList :: outer => do
    match ← peek with
    | none => fail (if isList then .endInList else .endInObject)
    | some ch =>
      if ch = (if isList then ']' else '\x7d') then do
        eat
        skipClosing fuel true outer
      else if after then
        if ch = ',' then do
          eat
          pure (isList :: outer)
        else failNext (if isList then .expectedListComma else .expectedObjectComma)
      else pure (isList :: outer)

/-- Moves past a key and its colon. -/
def skipKey : Scan Unit := do
  match ← peek with
  | some '"' => do
    eat
    skipStringRest (← budget)
  | some _ => failNext .keyNotString
  | none => fail .endInObject
  colon

/-- Moves past a value inside open brackets, innermost first; true stands for a list. -/
def skipValues : Nat → List Bool → Scan Unit
  | 0, _ => fail .endInValue
  | fuel + 1, open_ => do
    match ← peek with
    | none => fail .endInValue
    | some ch =>
      let nested := ch == '[' || ch == '\x7b'
      if ch = 'n' then do
        eat
        word ['u', 'l', 'l']
      else if ch = 't' then do
        eat
        word ['r', 'u', 'e']
      else if ch = 'f' then do
        eat
        word ['a', 'l', 's', 'e']
      else if ch = '-' then do
        eat
        skipNumber
      else if ch.isDigit then skipNumber
      else if ch = '"' then do
        eat
        skipStringRest (← budget)
      else if nested then eat
      else failNext .expectedValue
      let open_ := if nested then (ch == '[') :: open_ else open_
      match ← skipClosing (← budget) (!nested) open_ with
      | [] => pure ()
      | isList :: outer => do
        if !isList then skipKey
        skipValues fuel (isList :: outer)

/-- Moves past a value, whatever it is and however deep. -/
def skipValue : Scan Unit := do skipValues (← budget) []

/-- Reads the end of the text. -/
def finish : Scan Unit := do
  match ← peek with
  | none => pure ()
  | some _ => failNext .trailingCharacters

/-- Reads a whole text. -/
def run {α : Type} (x : Scan α) (s : String) : Except Problem α :=
  (do
    let a ← x
    finish
    return a : Scan α) (Cursor.start s.toList) |>.1

end Scan

/-- The number of brackets, less one, that may be open at a time. -/
def depthLimit : Nat := 128

/-- Reads a JSON text. -/
def read (s : String) : Except Problem Json := (Scan.value depthLimit).run s

end SemanticLayer.Json
