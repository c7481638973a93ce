import SemanticLayer.Sql.Keyword
import SemanticLayer.Sql.Reader

/-
# Names of types

The standard types have canonical spellings; any other name is a type of the
database's own.  A type may be followed by square brackets, which make it a
type of arrays; `ARRAY<…>` is another spelling of such a type.  Two closing
angle brackets side by side are one token, which closes two types.
-/

namespace SemanticLayer.Sql

inductive TypeName where
  /-- `INTERVAL`, whose literals have a form of their own. -/
  | interval
  /-- A standard type, in its canonical spelling. -/
  | standard (text : String)
  /-- A type known by its name only, with what stands in brackets behind it. -/
  | custom (path : List Name) (modifiers : List String)

namespace TypeName

def text : TypeName → String
  | .interval => "INTERVAL"
  | .standard t => t
  | .custom path modifiers =>
    renderPath path ++ if modifiers.isEmpty then "" else "(" ++ commas modifiers ++ ")"

open Reader

/-- The types without parameters, by their keywords, with their spellings where these differ. -/
def plain : List (String × String) :=
  [("BOOLEAN", "BOOLEAN"), ("BOOL", "BOOL"), ("REAL", "REAL"), ("FLOAT4", "FLOAT4"),
   ("FLOAT32", "Float32"), ("FLOAT64", "FLOAT64"), ("FLOAT8", "FLOAT8"), ("INT16", "Int16"),
   ("INT32", "Int32"), ("INT64", "INT64"), ("INT128", "Int128"), ("INT256", "Int256"),
   ("UINT8", "UInt8"), ("UINT16", "UInt16"), ("UINT32", "UInt32"), ("UINT64", "UInt64"),
   ("UINT128", "UInt128"), ("UINT256", "UInt256"), ("UUID", "UUID"), ("DATE", "DATE"),
   ("DATE32", "Date32"), ("JSON", "JSON"), ("JSONB", "JSONB"), ("REGCLASS", "REGCLASS"),
   ("TEXT", "TEXT"), ("BYTEA", "BYTEA"), ("TRIGGER", "TRIGGER")]

/-- The types with an optional number in brackets. -/
def sized : List String :=
  ["FLOAT", "CLOB", "BINARY", "VARBINARY", "BLOB", "DATETIME", "TIMESTAMPTZ", "TIMETZ", "STRING",
   "BYTES"]

/-- The whole numbers, which may be unsigned. -/
def whole : List String :=
  ["TINYINT", "INT2", "SMALLINT", "MEDIUMINT", "INT", "INT4", "INT8", "INTEGER", "BIGINT"]

/-- A number in brackets, if there is one. -/
def size : Reader String := do
  if ← seesSymbol "(" then return "(" ++ (← bracketed digits) ++ ")" else return ""

/-- A number of characters in brackets, if there is one. -/
def width : Reader String := do
  if ← takesSymbol "(" then
    let inside ← if ← takes "MAX" then pure "MAX" else do
      let n ← digits
      pure (n ++ (← firstPhrase [["CHARACTERS"], ["OCTETS"]]))
    symbol ")"
    return "(" ++ inside ++ ")"
  return ""

/-- A number of digits in brackets, with how many of them follow the point. -/
def precision : Reader String := do
  if ← takesSymbol "(" then
    let n ← digits
    let rest ← if ← takesSymbol "," then do pure ("," ++ (← digits)) else pure ""
    symbol ")"
    return "(" ++ n ++ rest ++ ")"
  return ""

/-- A string literal between commas. -/
def quotedText : Reader String := do return stringLiteral (← plainText)

/-- One token in the brackets behind the name of a type of the database's own: a modifier, a comma,
which adds none, or the closing bracket, which ends them. -/
def modifier : Reader (Option (List String)) := do
  match ← next with
  | .word v q k => return some [(Token.word v q k).show_]
  | .number ds _ => return some [ds]
  | .text s => return some [s]
  | .symbol s => if s == "," then return some [] else if s == ")" then return none else failure
  | _ => failure

/-- A type of the database's own. -/
def named (budget : Nat) : Reader TypeName := do
  let n ← path budget
  if ← takesSymbol "(" then
    return .custom n (← many modifier budget).flatten
  return .custom n []

/-- Characters of a kind: of varying number, of any number, or padded. -/
def characters (k : String) : Reader String := do
  if ← takes "VARYING" then return k ++ " VARYING" ++ (← width)
  if ← takesAll ["LARGE", "OBJECT"] then return k ++ " LARGE OBJECT" ++ (← size)
  return k ++ (← width)

/-- Whether a time has a zone, if that is said. -/
def timeZone : Reader String := do
  match ← takesOneOf ["WITH", "WITHOUT"] with
  | some k =>
    keywords ["TIME", "ZONE"]
    return " " ++ k ++ " TIME ZONE"
  | none => return ""

/-- A time to a fraction of a second in so many digits, in a zone if one is given. -/
def fineTime : Reader String := bracketed do
  let n ← digits
  let zone ← if ← takesSymbol "," then do
      pure (", '" ++ (← literalText isKeywordText) ++ "'")
    else pure ""
  return "DateTime64(" ++ n ++ zone ++ ")"

/-- The spelling of a standard type, by its keyword. -/
def ofKeyword (budget : Nat) (k : String) : Reader (Option String) := do
  match plain.lookup k with
  | some t => return some t
  | none =>
    if sized.contains k then return some (k ++ (← size))
    if whole.contains k then
      let n ← size
      return some (k ++ n ++ (← phrase ["UNSIGNED"]))
    if ["VARCHAR", "NVARCHAR"].contains k then return some (k ++ (← width))
    if ["CHARACTER", "CHAR"].contains k then return some (← characters k)
    if ["NUMERIC", "DECIMAL", "DEC", "BIGNUMERIC", "BIGDECIMAL"].contains k then
      return some (k ++ (← precision))
    if ["TIMESTAMP", "TIME"].contains k then
      let n ← size
      return some (k ++ n ++ (← timeZone))
    if k == "DOUBLE" then return some (k ++ (← phrase ["PRECISION"]))
    if k == "DATETIME64" then return some (← fineTime)
    if k == "FIXEDSTRING" then return some ("FixedString(" ++ (← bracketed digits) ++ ")")
    if ["ENUM", "SET"].contains k then
      return some (k ++ "(" ++ commas (← bracketed (list budget quotedText)) ++ ")")
    return none

/-- Brackets behind a type, if there are any. -/
def arrayMark : Reader (Option String) := do
  if ← takesSymbol "[" then
    let n ← attempt digits
    symbol "]"
    return some ("[" ++ n.getD "" ++ "]")
  return none

/-- The closing angle bracket of a type, unless the type in it has taken that along; tells whether a
second one was taken along. -/
def closing (taken : Bool) : Reader Bool := do
  if taken then return false
  if ← takesSymbol ">" then return false
  symbol ">>"
  return true

/-- A type before any square brackets. -/
def element (budget : Nat) (k : String) : Reader TypeName := do
  if k == "INTERVAL" then
    skip
    return .interval
  let start ← get
  skip
  match ← ofKeyword budget k with
  | some t => return .standard t
  | none =>
    set start
    named budget

/-- A type, and whether the bracket that closes a type around it was taken along. -/
def part (budget : Nat) : Nat → Reader (TypeName × Bool)
  | 0 => failure
  | depth + 1 => do
    match ← peek with
    | some (.word _ q k) =>
      let (base, extra) ← if q.isNone ∧ k == "ARRAY" then do
          skip
          symbol "<"
          let (t, taken) ← part budget depth
          let extra ← closing taken
          pure (TypeName.standard ("ARRAY<" ++ t.text ++ ">"), extra)
        else do pure (← element budget k, false)
      let marks ← many arrayMark budget
      return (if marks.isEmpty then base else .standard (base.text ++ String.join marks), extra)
    | _ => failure

/-- The name of a type. -/
def read (budget : Nat) : Reader TypeName := do
  let (t, extra) ← part budget budget
  if extra then failure
  return t

end TypeName

end SemanticLayer.Sql
