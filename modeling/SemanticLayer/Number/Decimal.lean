import SemanticLayer.Number.Nearest
import SemanticLayer.Number.Shortest

/-
# Decimals

A decimal is a whole number of units of `10^-scale`.  Its scale is part of it:
`1.50` and `1.5` are different decimals.  The units take up to 96 bits and the
scale is at most 28.
-/

namespace SemanticLayer

structure Decimal where
  /-- Whether it is below zero; it may be set for zero. -/
  negative : Bool
  units : Nat
  scale : Nat
deriving DecidableEq, Repr

namespace Decimal

/-- The bound on the units. -/
def unitsBound : Nat := Nat.pow 2 96

/-- The largest scale. -/
def maxScale : Nat := 28

/-- A decimal with a sign, except that zero has none. -/
def signed (negative : Bool) (units scale : Nat) : Decimal := ⟨negative && units != 0, units, scale⟩

/-! ### Text -/

/-- The digits of a number, with zeros before them up to a length. -/
def digitsOfLength (length n : Nat) : List Char :=
  let ds := Nat.toDigits 10 n
  List.replicate (length - ds.length) '0' ++ ds

/-- The text of a decimal, with as many digits behind the point as its scale says. -/
def text (d : Decimal) : String :=
  let ds := digitsOfLength (d.scale + 1) d.units
  let whole := ds.take (ds.length - d.scale)
  let part := ds.drop (ds.length - d.scale)
  String.ofList ((if d.negative then ['-'] else []) ++ whole ++
    (if part.isEmpty then [] else '.' :: part))

/-- The value of a digit. -/
def digit? (c : Char) : Option Nat := if c.isDigit then some (c.toNat - 48) else none

/-- Rounds units up when the digit behind them is 5 or more; what no longer fits loses its last
digit. -/
def roundAt (units scale next : Nat) : Option (Nat × Nat) :=
  if next < 5 then some (units, scale)
  else if units + 1 < unitsBound then some (units + 1, scale)
  else if scale = 0 then none
  else some ((units + 5) / 10, scale - 1)

/-- Takes over digits behind the point while they fit, and rounds at the first that does not. -/
def pushDecimals : Nat → Nat → List Nat → Option (Nat × Nat)
  | units, scale, [] => some (units, scale)
  | units, scale, d :: rest =>
    if scale < maxScale ∧ units * 10 + d < unitsBound then
      pushDecimals (units * 10 + d) (scale + 1) rest
    else roundAt units scale d

/-- The decimal of digits before and behind the point. -/
def ofDigits (negative : Bool) (whole part : List Nat) : Option Decimal := do
  let units := whole.foldl (fun n d => n * 10 + d) 0
  if units < unitsBound then
    let (units, scale) ← pushDecimals units 0 part
    return signed negative units scale
  else none

/-- The decimal of a text: a sign, digits, and a point with more digits. -/
def ofText? (s : String) : Option Decimal :=
  match s.toList with
  | '-' :: rest => unsigned true rest
  | '+' :: rest => unsigned false rest
  | cs => unsigned false cs
where
  /-- The decimal of a text behind its sign. -/
  unsigned (negative : Bool) (cs : List Char) : Option Decimal := do
    let (whole, rest) := cs.span (· != '.')
    if whole.isEmpty && (rest.drop 1).isEmpty then none
    ofDigits negative (← whole.mapM digit?) (← (rest.drop 1).mapM digit?)

/-! ### Rounding -/

/-- The decimal with another scale.  Digits that are cut off are rounded, a half away from zero;
a scale that would need too many digits is not reached. -/
def rescale (d : Decimal) (scale : Nat) : Decimal :=
  if scale ≤ d.scale then
    let cut := Nat.pow 10 (d.scale - scale)
    ⟨d.negative, (d.units + cut / 2) / cut, scale⟩
  else if d.units = 0 then ⟨d.negative, 0, min scale maxScale⟩
  else extend (scale - d.scale) d
where
  /-- Adds digits while they fit. -/
  extend : Nat → Decimal → Decimal
    | 0, d => d
    | n + 1, d =>
      if d.units * 10 < unitsBound then extend n ⟨d.negative, d.units * 10, d.scale + 1⟩ else d

/-! ### Doubles -/

/-- A number as a double. -/
def double (n : Nat) : Float := Nearest.double n 1

/-- The decimal as a double.  A whole number is taken as it is.  Of any other the whole part and
the fraction are added as doubles; the sum times `10^scale` is rounded, a half away from zero, and
divided again. -/
def toFloat (d : Decimal) : Float :=
  let tens := Nat.pow 10 d.scale
  let magnitude :=
    if d.units % tens = 0 then double (d.units / tens)
    else
      let sum := double (d.units / tens) + double (d.units % tens) / double tens
      (sum * double tens).round / double tens
  if d.negative && !(d.scale == 0 && d.units == 0) then -magnitude else magnitude

end Decimal

end SemanticLayer
