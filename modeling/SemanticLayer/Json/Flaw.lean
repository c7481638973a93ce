import SemanticLayer.Json.Value
import SemanticLayer.Number.Shortest
import SemanticLayer.Text.Quoted

/-
# What is wrong with a document

A flaw is either a text that is not JSON or a value that is not what was
expected.  In a text it is reported with its place: the line, counted from 1,
and the number of bytes read on that line.
-/

namespace SemanticLayer.Json

/-- A reason to reject a document. -/
inductive Flaw where
  | endInValue | endInList | endInObject | endInString
  | expectedColon | expectedListComma | expectedObjectComma | expectedWord | expectedValue
  | invalidEscape | invalidNumber | numberOutOfRange | controlCharacter | keyNotString
  | loneSurrogate | openSurrogate | trailingComma | trailingCharacters | tooDeep
  /-- A value of another type. -/
  | wrongType (found expected : String)
  /-- A value of the right type that is not allowed. -/
  | wrongValue (found expected : String)
  | wrongLength (found : Nat) (expected : String)
  | unknownVariant (found : String) (expected : List String)
  | missingField (name : String)
  | duplicateField (name : String)
  /-- None of the forms of a value fits. -/
  | noForm (name : String)
  /-- A text that does not spell the value it should. -/
  | misspelled (reason : String)

/-- Names between backquotes, with commas. -/
def listNames (names : List String) : String :=
  ", ".intercalate (names.map fun n => "`" ++ n ++ "`")

def Flaw.message : Flaw → String
  | endInValue => "EOF while parsing a value"
  | endInList => "EOF while parsing a list"
  | endInObject => "EOF while parsing an object"
  | endInString => "EOF while parsing a string"
  | expectedColon => "expected `:`"
  | expectedListComma => "expected `,` or `]`"
  | expectedObjectComma => "expected `,` or `\x7d`"
  | expectedWord => "expected ident"
  | expectedValue => "expected value"
  | invalidEscape => "invalid escape"
  | invalidNumber => "invalid number"
  | numberOutOfRange => "number out of range"
  | controlCharacter => "control character (\\u0000-\\u001F) found while parsing a string"
  | keyNotString => "key must be a string"
  | loneSurrogate => "lone leading surrogate in hex escape"
  | openSurrogate => "unexpected end of hex escape"
  | trailingComma => "trailing comma"
  | trailingCharacters => "trailing characters"
  | tooDeep => "recursion limit exceeded"
  | wrongType found expected => "invalid type: " ++ found ++ ", expected " ++ expected
  | wrongValue found expected => "invalid value: " ++ found ++ ", expected " ++ expected
  | wrongLength found expected => "invalid length " ++ toString found ++ ", expected " ++ expected
  | unknownVariant found expected =>
    "unknown variant `" ++ found ++ "`, expected one of " ++ listNames expected
  | missingField name => "missing field `" ++ name ++ "`"
  | duplicateField name => "duplicate field `" ++ name ++ "`"
  | noForm name => "data did not match any variant of untagged enum " ++ name
  | misspelled reason => reason

/-- A place in a text. -/
structure Place where
  line : Nat
  /-- Bytes read on the line. -/
  column : Nat
deriving DecidableEq, Repr

/-- A flaw and, when the document was read from a text, its place. -/
structure Problem where
  flaw : Flaw
  place : Option Place

def Problem.message (p : Problem) : String :=
  match p.place with
  | none => p.flaw.message
  | some place =>
    p.flaw.message ++ " at line " ++ toString place.line ++ " column " ++ toString place.column

/-- How a double is shown. -/
def floatShown (x : Float) : String := (floatText? x).getD "null"

/-- How a value of an unexpected type is named. -/
def describe : Json → String
  | null => "null"
  | bool b => if b then "boolean `true`" else "boolean `false`"
  | int n => "integer `" ++ toString n ++ "`"
  | float x => "floating point `" ++ floatShown x ++ "`"
  | string s => "string " ++ Text.quoted s
  | list _ => "sequence"
  | object _ => "map"

/-- The flaw of a value that is not what was expected. -/
def Flaw.unexpected (found : Json) (expected : String) : Flaw := .wrongType found.describe expected

end SemanticLayer.Json
