/-
# Literals and quoted names

A text between quotes, where a quote is written twice unless it follows a
backslash:

| in the text | between the quotes |
| --- | --- |
| a quote after a backslash | the quote; the backslash still counts as the character before the next one |
| two quotes | two quotes |
| any other quote | two quotes |
| any other character | itself |
-/

namespace SemanticLayer.Sql

/-- What the character before asks of a quote. -/
inductive QuoteMode where
  /-- The quote is written twice. -/
  | plain
  /-- The character before is a backslash: the quote is written once. -/
  | escaping
  /-- The character before is a quote that has been written twice: the quote is its second half. -/
  | paired
deriving DecidableEq

/-- What stands between the quotes. -/
def quoteBody (quote : Char) : QuoteMode → List Char → List Char
  | _, [] => []
  | mode, c :: rest =>
    if c = quote then
      match mode with
      | .plain => quote :: quote :: quoteBody quote .paired rest
      | .escaping => quote :: quoteBody quote .escaping rest
      | .paired => quoteBody quote .plain rest
    else c :: quoteBody quote (if c = '\\' then .escaping else .plain) rest

/-- A text as it stands between quotes. -/
def inside (quote : Char) (s : String) : String := String.ofList (quoteBody quote .plain s.toList)

/-- A text between quotes. -/
def enclose (quote : Char) (s : String) : String :=
  String.ofList (quote :: quoteBody quote .plain s.toList ++ [quote])

/-- A string literal. -/
def stringLiteral (s : String) : String := enclose '\'' s

end SemanticLayer.Sql
