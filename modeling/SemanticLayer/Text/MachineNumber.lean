import SemanticLayer.Json.Scan
import SemanticLayer.Text.Address

/-
# Numbers of machines

A machine in a network has a number, written in one of two ways:

| form | written |
| --- | --- |
| 32 bits | four decimal numbers below 256 between points, as `127.0.0.1` |
| 128 bits | eight groups of up to four hexadecimal digits between colons, as `fe80:0:0:0:0:0:0:1` |

In the longer form the last two groups may be written in the shorter form, and
a row of zero groups may be left out between two colons, once: `fe80::1`.
-/

namespace SemanticLayer.Text

/-- Whether a text is a decimal number below 256, without zeros before it. -/
def isByteNumber (cs : List Char) : Bool :=
  match cs with
  | ['0'] => true
  | c :: _ => c != '0' && cs.all Char.isDigit && cs.length ≤ 3 &&
      cs.foldl (fun n c => n * 10 + (c.toNat - 48)) 0 < 256
  | [] => false

/-- Whether a text is a number of a machine in the shorter form. -/
def isShortMachineNumber (cs : List Char) : Bool :=
  let parts := Address.cutAll ['.'] cs
  parts.length = 4 && parts.all isByteNumber

/-- Whether a text is a group of hexadecimal digits. -/
def isHexGroup (cs : List Char) : Bool :=
  !cs.isEmpty && cs.length ≤ 4 && (Json.Scan.hexNumber? cs).isSome

/-- How many groups texts stand for, if each is a group and only the last may be in the shorter
form. -/
def groupCount? : List (List Char) → Option Nat
  | [] => some 0
  | [last] =>
    if isHexGroup last then some 1 else if isShortMachineNumber last then some 2 else none
  | s :: rest => if isHexGroup s then (· + 1) <$> groupCount? rest else none

/-- The texts between colons; none for an empty text. -/
def groups (cs : List Char) : List (List Char) :=
  if cs.isEmpty then [] else Address.cutAll [':'] cs

/-- What stands before and behind the first two colons in a row. -/
def aroundGap : List Char → Option (List Char × List Char)
  | ':' :: ':' :: rest => some ([], rest)
  | c :: rest => (fun (before, behind) => (c :: before, behind)) <$> aroundGap rest
  | [] => none

/-- Whether a text is a number of a machine in the longer form. -/
def isLongMachineNumber (cs : List Char) : Bool :=
  match aroundGap cs with
  | none => groupCount? (groups cs) == some 8
  | some (before, behind) =>
    let before := groups before
    match groupCount? (groups behind) with
    | some n => before.all isHexGroup && before.length + n ≤ 7
    | none => false

/-- Whether a text is a number of a machine. -/
def isMachineNumber (cs : List Char) : Bool := isShortMachineNumber cs || isLongMachineNumber cs

end SemanticLayer.Text
