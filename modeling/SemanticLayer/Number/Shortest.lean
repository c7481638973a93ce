/-
# The shortest decimal that reads back

A positive double is `m · 2^q`.  The reals that are rounded to it form an
interval whose ends lie halfway to its neighbours and belong to it when `m` is
even.  For 1, 2, … 17 digits the two decimals next to the double are tried; the
first that lies in the interval is taken, the nearer one when both do.

| magnitude | notation |
| --- | --- |
| zero, or from 1e-5 up to but not including 1e16 | positional, with at least one decimal |
| any other | digits with a point after the first, `e`, and a signed exponent |
-/

namespace SemanticLayer

/-- A positive double `mantissa · 2^exponent`; `narrow` when the neighbour below is half as far as the one above. -/
structure Binary where
  mantissa : Nat
  exponent : Int
  narrow : Bool

namespace Binary

/-- The magnitude of a finite double other than zero. -/
def ofBits (bits : UInt64) : Binary :=
  let fraction : Nat := bits.toNat % Nat.pow 2 52
  let biased : Nat := bits.toNat / Nat.pow 2 52 % Nat.pow 2 11
  if biased = 0 then ⟨fraction, -1074, false⟩
  else ⟨Nat.pow 2 52 + fraction, (biased : Int) - 1075, fraction == 0 && biased != 1⟩

/-- The double times four, as a fraction: four times the mantissa over or times a power of two. -/
def fraction (b : Binary) : Nat × Nat :=
  if 0 ≤ b.exponent then (4 * b.mantissa * Nat.pow 2 b.exponent.toNat, 1)
  else (4 * b.mantissa, Nat.pow 2 b.exponent.natAbs)

/-- Half the distance to a neighbour, in units of a quarter of the last binary place: above and below. -/
def margins (b : Binary) : Nat × Nat := (2, if b.narrow then 1 else 2)

end Binary

namespace Shortest

/-- Whether `digits · 10^scale` is rounded to the double: its quadruple lies between
the quadruples of the ends of the interval. -/
def readsBack (b : Binary) (digits : Nat) (scale : Int) : Bool :=
  -- both sides are multiplied by the powers of two and ten that clear the fractions
  let tens := Nat.pow 10 scale.natAbs
  let twos := Nat.pow 2 b.exponent.natAbs
  let (above, below) := b.margins
  let value := if 0 ≤ scale then 4 * digits * tens else 4 * digits
  let left := if 0 ≤ b.exponent then value else value * twos
  let unit (n : Nat) :=
    let n := if 0 ≤ b.exponent then n * twos else n
    if 0 ≤ scale then n else n * tens
  let low := unit (4 * b.mantissa - below)
  let high := unit (4 * b.mantissa + above)
  if b.mantissa % 2 = 0 then low ≤ left && left ≤ high else low < left && left < high

/-- The largest `scale` with `10^scale` not above the double, looked for downwards from `scale`. -/
def leadingScale (b : Binary) : Nat → Int → Int
  | 0, scale => scale
  | fuel + 1, scale =>
    let (num, den) := b.fraction
    let fits := if 0 ≤ scale then 4 * den * Nat.pow 10 scale.toNat ≤ num
      else 4 * den ≤ num * Nat.pow 10 scale.natAbs
    if fits then scale else leadingScale b fuel (scale - 1)

/-- The double over `10^scale`, rounded down, and whether what is cut off is at least, and
more than, a half. -/
def floorAt (b : Binary) (scale : Int) : Nat × Bool × Bool :=
  let (num, den) := b.fraction
  let num := if 0 ≤ scale then num else num * Nat.pow 10 scale.natAbs
  let den := 4 * den * if 0 ≤ scale then Nat.pow 10 scale.toNat else 1
  let rest := num % den
  (num / den, 2 * rest ≥ den, 2 * rest > den)

/-- Of the decimals with the last place `10^scale` next to the double, the nearest that
reads back; of two equally near the even one. -/
def atScale (b : Binary) (scale : Int) : Option Nat :=
  let (down, atHalf, aboveHalf) := floorAt b scale
  let upFirst := aboveHalf || (atHalf && down % 2 == 1)
  let first := if upFirst then down + 1 else down
  let second := if upFirst then down else down + 1
  if readsBack b first scale then some first
  else if readsBack b second scale then some second
  else none

/-- Tries decimals of growing length, whose last places are `10^scale` and below. -/
def search (b : Binary) : Nat → Int → Nat × Int
  | 0, scale => ((floorAt b scale).1, scale)
  | fuel + 1, scale =>
    match atScale b scale with
    | some digits => (digits, scale)
    | none => search b fuel (scale - 1)

/-- Takes the zeros off the end of a number. -/
def dropZeros : Nat → Nat × Int → Nat × Int
  | 0, d => d
  | fuel + 1, (digits, scale) =>
    if digits % 10 = 0 ∧ digits ≠ 0 then dropZeros fuel (digits / 10, scale + 1)
    else (digits, scale)

/-- The shortest decimal `digits · 10^scale` that reads back. -/
def decimal (b : Binary) : Nat × Int :=
  dropZeros 20 (search b 17 (leadingScale b 640 309))

/-- The text of a decimal of at least one digit. -/
def text (digits : Nat) (scale : Int) : String :=
  let ds := toString digits
  let length : Int := ds.length
  /- The value is 0.d₁d₂… times ten to this power. -/
  let point := length + scale
  if -5 < point ∧ point ≤ 16 then
    if 0 ≤ scale then ds ++ String.ofList (List.replicate scale.toNat '0') ++ ".0"
    else if 0 < point then
      String.ofList (ds.toList.take point.toNat) ++ "." ++ String.ofList (ds.toList.drop point.toNat)
    else "0." ++ String.ofList (List.replicate (-point).toNat '0') ++ ds
  else
    let exponent := point - 1
    let head := String.ofList (ds.toList.take 1)
    let tail := String.ofList (ds.toList.drop 1)
    head ++ (if tail.isEmpty then "" else "." ++ tail) ++ "e" ++
      (if exponent < 0 then "-" else "+") ++ toString exponent.natAbs

end Shortest

/-- The text of a finite double; nothing for infinities and what is not a number. -/
def floatText? (x : Float) : Option String :=
  let bits := x.toBits
  let sign := if bits.toNat / Nat.pow 2 63 = 1 then "-" else ""
  let magnitude := bits.toNat % Nat.pow 2 63
  if magnitude / Nat.pow 2 52 = 2047 then none
  else if magnitude = 0 then some (sign ++ "0.0")
  else
    let (digits, scale) := Shortest.decimal (Binary.ofBits bits)
    some (sign ++ Shortest.text digits scale)

end SemanticLayer
