/-
# Lengths of time as text

A length of time is shown in the largest unit that it holds, with as many
decimals as it needs: `30s`, `1.5ms`, `999µs`, `0ns`.
-/

namespace SemanticLayer.Text

/-- A text without the zeros it ends in. -/
def dropLastZeros (ds : List Char) : List Char := (ds.reverse.dropWhile (· == '0')).reverse

/-- A number of nanoseconds in a unit of so many, whose decimals take so many digits. -/
def inUnit (nanoseconds unit digits : Nat) (name : String) : String :=
  let decimals := Nat.toDigits 10 (nanoseconds % unit)
  let decimals := dropLastZeros (List.replicate (digits - decimals.length) '0' ++ decimals)
  toString (nanoseconds / unit) ++
    (if decimals.isEmpty then "" else "." ++ String.ofList decimals) ++ name

/-- A number of nanoseconds. -/
def durationText (nanoseconds : Nat) : String :=
  if 1000000000 ≤ nanoseconds then inUnit nanoseconds 1000000000 9 "s"
  else if 1000000 ≤ nanoseconds then inUnit nanoseconds 1000000 6 "ms"
  else if 1000 ≤ nanoseconds then inUnit nanoseconds 1000 3 "µs"
  else toString nanoseconds ++ "ns"

end SemanticLayer.Text
