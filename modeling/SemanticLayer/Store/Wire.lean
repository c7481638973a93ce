import SemanticLayer.Store.ColumnType
import SemanticLayer.Store.Row

/-
# Rows on the wire

The database sends the cells of a row as bytes, most significant byte first, or
as nothing for null.  A cell takes up all of its bytes:

| type | bytes |
| --- | --- |
| `int2`, `int4`, `int8` | a signed number of 2, 4 or 8 bytes |
| `float4`, `float8` | a binary fraction of 4 or 8 bytes |
| `bool` | a byte, 0 for false |
| `text`, `varchar`, `bpchar`, `name` | UTF-8 |
| `date` | a signed number of 4 bytes: the days since 2000-01-01 |
| `numeric` | a header of four numbers of 2 bytes, and a digit of 2 bytes in base 10000 each |
-/

namespace SemanticLayer.Wire

/-- A column of a result. -/
structure Column where
  name : String
  type : Nat
deriving DecidableEq

/-- The number of bytes, without a sign. -/
def unsigned (bytes : List UInt8) : Nat := bytes.foldl (fun n b => n * 256 + b.toNat) 0

/-- The number of bytes, the first bit of which is the sign. -/
def signed (bytes : List UInt8) : Int :=
  let n := unsigned bytes
  let bound := Nat.pow 256 bytes.length
  if 2 * n < bound then n else (n : Int) - bound

/-- A number of so many bytes. -/
def int? (width : Nat) (bytes : List UInt8) : Option Cell :=
  if bytes.length = width then some (.int (signed bytes)) else none

def float4? (bytes : List UInt8) : Option Cell :=
  if bytes.length = 4 then
    some (.float (Float32.ofBits (UInt32.ofNat (unsigned bytes))).toFloat)
  else none

def float8? (bytes : List UInt8) : Option Cell :=
  if bytes.length = 8 then some (.float (Float.ofBits (UInt64.ofNat (unsigned bytes)))) else none

def bool? : List UInt8 → Option Cell
  | [b] => some (.bool (b != 0))
  | _ => none

def text? (bytes : List UInt8) : Option Cell :=
  Cell.text <$> String.fromUTF8? (ByteArray.mk bytes.toArray)

/-- The day number of 2000-01-01. -/
def dateZero : Int := Calendar.dayNumber ⟨2000, 1, 1⟩

def date? (bytes : List UInt8) : Option Cell :=
  if bytes.length = 4 then Cell.date <$> Date.ofNumber? (dateZero + signed bytes) else none

/-! ### Numbers in base 10000 -/

/-- The header of a number: how many digits there are, the power of 10000 of the first, the sign,
and how many decimals are shown. -/
structure NumericHeader where
  count : Nat
  weight : Int
  negative : Bool
  decimals : Nat

/-- Numbers of two bytes. -/
def pairs : List UInt8 → List (List UInt8)
  | a :: b :: rest => [a, b] :: pairs rest
  | _ => []

/-- The header and the digits of a number. -/
def numericParts? (bytes : List UInt8) : Option (NumericHeader × List Nat) :=
  match pairs bytes with
  | count :: weight :: sign :: decimals :: digits =>
    let count := unsigned count
    if count ≤ digits.length then
      some (⟨count, signed weight, unsigned sign = 0x4000, unsigned decimals⟩,
        (digits.take count).map unsigned)
    else none
  | _ => none

/-- The whole number of digits in base 10000, unless it is too large. -/
def wholeOf? (digits : List Nat) : Option Nat :=
  let n := digits.foldl (fun n d => n * 10000 + d) 0
  if n < Decimal.unitsBound then some n else none

/-- Of digits behind the point, those that the scale of a decimal has room for; the next one
rounds them. -/
def fractionOf (skipped : Nat) (digits : List Nat) : Nat :=
  let places := Decimal.maxScale / 4
  let padded := (List.replicate skipped 0 ++ digits ++ List.replicate (places + 1) 0)
  let kept := (padded.take places).foldl (fun n d => n * 10000 + d) 0
  if 5000 ≤ padded.getD places 0 then kept + 1 else kept

/-- A number of units of `10^-scale` as a decimal.  One with too many digits is rounded at the last
that there is room for, a half to the even neighbour. -/
def fit (units : Nat) : Nat → Option (Nat × Nat)
  | 0 => if units < Decimal.unitsBound then some (units, 0) else none
  | scale + 1 =>
    if units < Decimal.unitsBound then some (units, scale + 1)
    else cut units (scale + 1) 1
where
  /-- Cuts off digits until the rest has room. -/
  cut (units : Nat) : Nat → Nat → Option (Nat × Nat)
    | 0, _ => none
    | scale + 1, n =>
      let half := 5 * Nat.pow 10 (n - 1)
      let rest := units % Nat.pow 10 n
      let down := units / Nat.pow 10 n
      let rounded := if half < rest ∨ (half = rest ∧ down % 2 = 1) then down + 1 else down
      if rounded < Decimal.unitsBound then some (rounded, scale) else cut units scale (n + 1)

/-- The decimal of a number, shown with as many decimals as its header says. -/
def decimalOf? (h : NumericHeader) (digits : List Nat) : Option Decimal := do
  let wholeCount := (h.weight + 1).toNat
  let whole ← wholeOf? (digits.take wholeCount ++ List.replicate (wholeCount - digits.length) 0)
  let skipped := (-(h.weight + 1)).toNat
  let fraction := fractionOf skipped (digits.drop wholeCount)
  let (units, scale) ← fit (whole * Nat.pow 10 Decimal.maxScale + fraction) Decimal.maxScale
  return (Decimal.mk h.negative units scale).rescale h.decimals

def numeric? (bytes : List UInt8) : Option Cell := do
  let (h, digits) ← numericParts? bytes
  return .decimal (← decimalOf? h digits)

/-! ### Rows -/

/-- How the cells of a type are read; nothing for a type that rows do not have. -/
def reader? (type : Nat) : Option (List UInt8 → Option Cell) :=
  match ColumnType.name type with
  | "int2" => some (int? 2)
  | "int4" => some (int? 4)
  | "int8" => some (int? 8)
  | "float4" => some float4?
  | "float8" => some float8?
  | "numeric" => some numeric?
  | "text" | "varchar" | "bpchar" | "name" => some text?
  | "bool" => some bool?
  | "date" => some date?
  | _ => none

/-- Reads a cell of the column with a number. -/
def cell (number : Nat) (c : Column) (bytes : Option (List UInt8)) : Except StoreError Cell :=
  match reader? c.type with
  | none => .error (.unsupportedType c.name (ColumnType.name c.type))
  | some read =>
    match bytes with
    | none => .ok .null
    | some bytes =>
      match read bytes with
      | some cell => .ok cell
      | none => .error (.query ("error deserializing column " ++ toString number))

/-- Reads a row, its columns from left to right. -/
def row (columns : List Column) (cells : List (Option (List UInt8))) : Except StoreError Row := do
  let read ← (columns.zip cells).zipIdx.mapM fun ((c, bytes), number) => cell number c bytes
  return ⟨columns.map Column.name, read⟩

/-- What a statement comes to, where the database does not fail. -/
def rows (columns : List Column) (sent : List (List (Option (List UInt8)))) :
    Except StoreError (List Row) := sent.mapM (row columns)

/-- What the database answers to a connection, or to a statement, that fails. -/
def databaseError : String := "db error"

end SemanticLayer.Wire
