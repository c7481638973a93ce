import SemanticLayer.Calendar.Date
import SemanticLayer.Text.Blank

/-
# Reading dates

Two notations are read, which differ in the blanks they allow:

| notation | blanks |
| --- | --- |
| written in documents | before each number, before each dash, and after the day |
| given as a field | before each number |

The year has up to four digits without a sign and any number of digits behind
one; month and day have one or two digits.
-/

namespace SemanticLayer

/-- Why a text is not a date. -/
inductive DateTextError where
  | invalidCharacter | outOfRange | tooShort | tooLong
deriving DecidableEq

namespace DateTextError

def message : DateTextError → String
  | invalidCharacter => "input contains invalid characters"
  | outOfRange => "input is out of range"
  | tooShort => "premature end of input"
  | tooLong => "trailing input"

end DateTextError

namespace DateText

open Text

/-- The value of a run of decimal digits. -/
def digitsValue (ds : List Char) : Nat := ds.foldl (fun n d => n * 10 + (d.toNat - 48)) 0

/-- The largest number that a field of a date can hold while it is read. -/
def largest : Nat := Nat.pow 2 63 - 1

/-- Reads a number of at most `width` digits. -/
def number (width : Nat) (cs : List Char) : Except DateTextError (Nat × List Char) :=
  let digits := (cs.take width).takeWhile Char.isDigit
  if cs.isEmpty then .error .tooShort
  else if digits.isEmpty then .error .invalidCharacter
  else if digitsValue digits > largest then .error .outOfRange
  else .ok (digitsValue digits, cs.drop digits.length)

/-- Reads the year, with its sign if it has one. -/
def year (cs : List Char) : Except DateTextError (Int × List Char) := do
  let (n, rest) ← match cs with
    | '-' :: cs => do
      let (n, rest) ← number cs.length cs
      pure (-(n : Int), rest)
    | '+' :: cs => do
      let (n, rest) ← number cs.length cs
      pure ((n : Int), rest)
    | cs => do
      let (n, rest) ← number 4 cs
      pure ((n : Int), rest)
  if n < -2147483648 ∨ 2147483647 < n then throw .outOfRange
  return (n, rest)

/-- Reads a number of one or two digits from 1 to `limit`. -/
def field (limit : Nat) (cs : List Char) : Except DateTextError (Nat × List Char) := do
  let (n, rest) ← number 2 (skipBlank cs)
  if n < 1 ∨ limit < n then throw .outOfRange
  return (n, rest)

/-- Reads the dash between two numbers. -/
def dash (blanks : Bool) (cs : List Char) : Except DateTextError (List Char) :=
  match if blanks then skipBlank cs else cs with
  | '-' :: rest => .ok rest
  | [] => .error .tooShort
  | _ => .error .invalidCharacter

/-- Reads a date that takes up the whole text. -/
def read (blanks : Bool) (s : String) : Except DateTextError Date := do
  let (y, cs) ← year (skipBlank s.toList)
  let (m, cs) ← field 12 (← dash blanks cs)
  let (d, cs) ← field 31 (← dash blanks cs)
  let rest := if blanks then skipBlank cs else cs
  if !rest.isEmpty then throw .tooLong
  match Date.ofCivil? y m d with
  | some date => return date
  | none => throw .outOfRange

end DateText

/-- Reads a date as documents write it. -/
def Date.ofDocument (s : String) : Except DateTextError Date := DateText.read true s

/-- Reads a date given as a field of its own, without blanks around it. -/
def Date.ofField? (s : String) : Option Date :=
  match DateText.read false (Text.trim s) with
  | .ok d => some d
  | .error _ => none

end SemanticLayer
