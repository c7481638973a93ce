/-
# The nearest double

A positive double is `m · 2^q` with `m` at most `2^53` and `q` at least `-1074`.
The double of a fraction is the nearest one, and of two equally near the one
with an even `m`; fractions beyond the largest double become infinite.
-/

namespace SemanticLayer.Nearest

/-- A fraction divided by a power of two. -/
def scaled (num den : Nat) (q : Int) : Nat × Nat :=
  if 0 ≤ q then (num, den * Nat.pow 2 q.natAbs) else (num * Nat.pow 2 q.natAbs, den)

/-- The whole number nearest to a fraction, of two equally near the even one. -/
def rounded (num den : Nat) : Nat :=
  let down := num / den
  let rest := 2 * (num % den)
  if rest > den || (rest = den && down % 2 = 1) then down + 1 else down

/-- The largest power of two that is not above a fraction. -/
def leadingPower (num den : Nat) : Int :=
  let power := (num.log2 : Int) - den.log2
  let (n, d) := scaled num den power
  if n < d then power - 1 else power

/-- The double nearest to a fraction. -/
def double (num den : Nat) : Float :=
  if num = 0 then 0
  else
    let q := max (leadingPower num den - 52) (-1074)
    let (n, d) := scaled num den q
    (UInt64.ofNat (rounded n d)).toFloat.scaleB q

/-- The double nearest to `digits · 10^exponent`.  A power of ten that takes any digits beyond the
doubles is not computed. -/
def ofDecimal (digits : Nat) (exponent : Int) : Float :=
  let length : Int := (Nat.toDigits 10 digits).length
  if digits = 0 ∨ exponent + length < -400 then 0
  else if 400 < exponent + length then 1.0 / 0.0
  else if 0 ≤ exponent then double (digits * Nat.pow 10 exponent.natAbs) 1
  else double digits (Nat.pow 10 exponent.natAbs)

end SemanticLayer.Nearest
