import SemanticLayer.Json.Flaw

/-
# Writing JSON

The text has no blanks.  In a string the quote, the backslash and the control
characters are escaped, and every other character is written as it is:

| character | written |
| --- | --- |
| `"` and `\` | behind a backslash |
| backspace, tab, line feed, form feed, carriage return | `\b`, `\t`, `\n`, `\f`, `\r` |
| any other below U+0020 | `\u00` and two hexadecimal digits |
-/

namespace SemanticLayer.Json

/-- A hexadecimal digit in lower case. -/
def hexDigit (n : Nat) : Char := if n < 10 then Char.ofNat (48 + n) else Char.ofNat (87 + n)

/-- How a character of a string is written. -/
def writeChar (c : Char) : List Char :=
  if c = '"' then ['\\', '"']
  else if c = '\\' then ['\\', '\\']
  else if c = '\x08' then ['\\', 'b']
  else if c = '\t' then ['\\', 't']
  else if c = '\n' then ['\\', 'n']
  else if c = '\x0c' then ['\\', 'f']
  else if c = '\r' then ['\\', 'r']
  else if c.toNat < 32 then ['\\', 'u', '0', '0', hexDigit (c.toNat / 16), hexDigit (c.toNat % 16)]
  else [c]

/-- A string in quotes. -/
def writeString (s : String) : List Char := '"' :: s.toList.flatMap writeChar ++ ['"']

mutual

/-- The text of a value. -/
def writeChars : Json → List Char
  | null => ['n', 'u', 'l', 'l']
  | bool true => ['t', 'r', 'u', 'e']
  | bool false => ['f', 'a', 'l', 's', 'e']
  | int n => (toString n).toList
  | float x => ((floatText? x).getD "null").toList
  | string s => writeString s
  | list items => '[' :: writeItems items ++ [']']
  | object entries => '\x7b' :: writeEntries entries ++ ['\x7d']

/-- The elements of a list with commas between them. -/
def writeItems : List Json → List Char
  | [] => []
  | [j] => writeChars j
  | j :: rest => writeChars j ++ ',' :: writeItems rest

/-- The entries of an object with commas between them. -/
def writeEntries : List (String × Json) → List Char
  | [] => []
  | [(key, j)] => writeString key ++ ':' :: writeChars j
  | (key, j) :: rest => writeString key ++ ':' :: writeChars j ++ ',' :: writeEntries rest

end

/-- The text of a value. -/
def write (j : Json) : String := String.ofList j.writeChars

end SemanticLayer.Json
