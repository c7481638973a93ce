/-
# JSON values

An object keeps its entries in the order in which they are written.  Numbers
are whole numbers from -2^63 to 2^64 - 1, or doubles.
-/

namespace SemanticLayer

inductive Json where
  | null
  | bool (b : Bool)
  | int (n : Int)
  | float (x : Float)
  | string (s : String)
  | list (items : List Json)
  | object (entries : List (String × Json))
deriving Inhabited

namespace Json

/-- The last value under a key, if the value is an object that has the key. -/
def get? (key : String) : Json → Option Json
  | object entries => (entries.reverse.find? (·.1 == key)).map (·.2)
  | _ => none

/-- The element at a position, if the value is a list that has one. -/
def at? (i : Nat) : Json → Option Json
  | list items => items[i]?
  | _ => none

def string? : Json → Option String
  | string s => some s
  | _ => none

/-- The entries of which each is the last under its key. -/
def lastOfEach : List (String × Json) → List (String × Json)
  | [] => []
  | e :: rest => if rest.any (·.1 == e.1) then lastOfEach rest else e :: lastOfEach rest

/-- A list of texts. -/
def strings (xs : List String) : Json := list (xs.map string)

/-- A text, or null when there is none. -/
def optional (s : Option String) : Json := s.elim null string

end Json

end SemanticLayer
