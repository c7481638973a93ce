import SemanticLayer.Calendar.DateText
import SemanticLayer.Json.Writer
import SemanticLayer.Number.Decimal

/-
# Rows of a result

A row is a list of columns and a list of cells.  Cells go with columns by
position; what has no partner is left out.
-/

namespace SemanticLayer

/-- A value in a row. -/
inductive Cell where
  | null
  | bool (b : Bool)
  | int (n : Int)
  | float (x : Float)
  | decimal (d : Decimal)
  | text (s : String)
  | date (d : Date)

/-- A cell in a document; a decimal becomes a double. -/
def Cell.toJson : Cell → Json
  | null => .null
  | bool b => .bool b
  | int n => .int n
  | float x => .float x
  | decimal d => .float d.toFloat
  | text s => .string s
  | date d => .string d.iso

structure Row where
  columns : List String
  cells : List Cell

namespace Row

/-- The cell in the first column of a name. -/
def get? (r : Row) (column : String) : Option Cell := do
  r.cells[← r.columns.findIdx? (· == column)]?

/-- The entries of a row in the order of the columns. -/
def entries (r : Row) : List (String × Json) :=
  r.columns.zip (r.cells.map Cell.toJson)

/-- A row as an object in the order of the columns. -/
def toJson (r : Row) : Json := .object r.entries

end Row

/-- Why a statement has no rows. -/
inductive StoreError where
  | connection (reason : String)
  | query (reason : String)
  /-- A column of a type that rows do not have. -/
  | unsupportedType (column type : String)
deriving DecidableEq

namespace StoreError

def kind : StoreError → String
  | connection _ => "ConnectionError"
  | query _ => "QueryError"
  | unsupportedType .. => "UnsupportedType"

def message : StoreError → String
  | connection reason => "Connection error: " ++ reason
  | query reason => "Query error: " ++ reason
  | unsupportedType column type => "Unsupported column type " ++ type ++ " for column " ++ column

end StoreError

end SemanticLayer
