import SemanticLayer.Text.Alphabetic
import SemanticLayer.Text.Blank

/-
# Tokens of SQL text

The tokens of the PostgreSQL dialect.  In a string a backslash is a character
like any other and a quote is written twice; letters before the opening quote
ask for other rules:

| token | text |
| --- | --- |
| word | letters, digits, `_` and `$` after a letter or `_`; anything between double quotes |
| number | digits with at most one point and an exponent |
| string | `'…'`, `N'…'` and `X'…'` where a backslash escapes, `E'…'` with more escapes, `U&'…'` with code points, `$tag$…$tag$` |
| symbol | brackets, separators and the operators known by name |
| custom operator | an operator that more operator characters follow |
| blank | white space, a comment from `--` to the end of the line, nested comments between `/*` and `*/` |

Blanks separate the other tokens.  They are kept because the rows behind a
`COPY` are told apart by them.
-/

namespace SemanticLayer.Sql

/-- The kinds of string literals other than plain ones. -/
inductive StringKind where
  | national | escaped | unicode | hex
  | dollar (tag : String)
deriving DecidableEq

inductive Token where
  /-- A name or keyword; `quote` is the quote around it, and `keyword` its upper case when there is none. -/
  | word (value : String) (quote : Option Char) (keyword : String)
  | number (digits : String) (long : Bool)
  | text (value : String)
  | string (kind : StringKind) (value : String)
  | placeholder (text : String)
  | symbol (text : String)
  | custom (text : String)
  | other (c : Char)
  /-- White space or a comment. -/
  | blank (text : String)
deriving DecidableEq

namespace Token

/-- The upper-case form of a letter, as far as it is spelled in ASCII. -/
def upperChar (c : Char) : List Char :=
  if c.toNat < 128 then [c.toUpper]
  else if c = 'ſ' then ['S']
  else if c = 'ı' then ['I']
  else if c = 'ß' then ['S', 'S']
  else if c = 'ﬀ' then ['F', 'F']
  else if c = 'ﬁ' then ['F', 'I']
  else if c = 'ﬂ' then ['F', 'L']
  else if c = 'ﬃ' then ['F', 'F', 'I']
  else if c = 'ﬄ' then ['F', 'F', 'L']
  else if c = 'ﬅ' ∨ c = 'ﬆ' then ['S', 'T']
  else [c]

/-- Upper case, as far as keywords need it. -/
def upper (cs : List Char) : String := String.ofList (cs.flatMap upperChar)

/-- An unquoted word. -/
def ofWord (cs : List Char) : Token := .word (String.ofList cs) none (upper cs)

/-- A quoted word. -/
def ofQuoted (quote : Char) (cs : List Char) : Token := .word (String.ofList cs) (some quote) ""

/-- Whether a token only separates others. -/
def isBlank : Token → Bool
  | blank _ => true
  | _ => false

/-- The quotes around a string literal. -/
def delimiters : StringKind → String × String
  | .national => ("N'", "'")
  | .escaped => ("E'", "'")
  | .unicode => ("U&'", "'")
  | .hex => ("X'", "'")
  | .dollar tag => ("$" ++ tag ++ "$", "$" ++ tag ++ "$")

/-- A token as it is shown where its meaning does not matter: quotes in it are not written twice. -/
def show_ : Token → String
  | word value (some q) _ => String.singleton q ++ value ++ String.singleton q
  | word value none _ => value
  | number digits long => digits ++ if long then "L" else ""
  | text t => "'" ++ t ++ "'"
  | string kind value => (delimiters kind).1 ++ value ++ (delimiters kind).2
  | placeholder t => t
  | symbol t => t
  | custom t => t
  | other c => String.singleton c
  | blank t => t

/-- The first few tokens of a list that are not blank. -/
def firstOf : Nat → List Token → List Token
  | 0, _ => []
  | _ + 1, [] => []
  | n + 1, t :: rest => if t.isBlank then firstOf (n + 1) rest else t :: firstOf n rest

/-- Whether a token is a keyword. -/
def isKeyword (t : Token) (keyword : String) : Bool :=
  match t with
  | .word _ none k => k == keyword
  | _ => false

end Token

namespace Lex

open Text

/-- The characters a word may start with. -/
def isWordStart (c : Char) : Bool := isAlphabetic c || c == '_'

/-- The characters a word may go on with. -/
def isWordPart (c : Char) : Bool := isAlphabetic c || c.isDigit || c == '$' || c == '_'

/-- The characters that operators are made of. -/
def isOperatorChar (c : Char) : Bool :=
  ['+', '-', '*', '/', '<', '>', '=', '~', '!', '@', '#', '%', '^', '&', '|', '\x60', '?'].contains c

/-- Reads up to the closing quote; a quote written twice stands for one.  `done` is in reverse. -/
def quotedRest (quote : Char) (done : List Char) : List Char → Option (List Char × List Char)
  | [] => none
  | c :: rest =>
    if c = quote then
      match rest with
      | d :: after =>
        if d = quote then quotedRest quote (quote :: done) after else some (done.reverse, rest)
      | [] => some (done.reverse, [])
    else quotedRest quote (c :: done) rest

/-- The character that a letter stands for after a backslash. -/
def backslashed (c : Char) : Char :=
  if c = '0' then '\x00'
  else if c = 'a' then '\x07'
  else if c = 'b' then '\x08'
  else if c = 'f' then '\x0c'
  else if c = 'n' then '\n'
  else if c = 'r' then '\r'
  else if c = 't' then '\t'
  else if c = 'Z' then '\x1a'
  else c

/-- Reads a string in which a backslash escapes up to its closing quote. -/
def backslashedRest (done : List Char) : List Char → Option (List Char × List Char)
  | [] => none
  | c :: rest =>
    if c = '\'' then
      match rest with
      | d :: after =>
        if d = '\'' then backslashedRest ('\'' :: done) after else some (done.reverse, rest)
      | [] => some (done.reverse, [])
    else if c = '\\' then
      match rest with
      | d :: after => backslashedRest (backslashed d :: done) after
      | [] => none
    else backslashedRest (c :: done) rest

/-- Drops a comment that has been opened `open_` times; `last` is the character before. -/
def commentRest (last : Char) : Nat → List Char → Option (List Char)
  | _, [] => none
  | open_, c :: rest =>
    if last = '/' ∧ c = '*' then commentRest c (open_ + 1) rest
    else if last = '*' ∧ c = '/' then
      if open_ ≤ 1 then some rest else commentRest c (open_ - 1) rest
    else commentRest c open_ rest

/-- The value of digits in a base up to 16. -/
def digitsIn? (base : Nat) (cs : List Char) : Option Nat :=
  cs.foldl (fun n c => do
    let n ← n
    let d ← if c.isDigit then some (c.toNat - 48)
      else if 'a' ≤ c ∧ c ≤ 'f' then some (c.toNat - 87)
      else if 'A' ≤ c ∧ c ≤ 'F' then some (c.toNat - 55)
      else none
    if d < base then some (n * base + d) else none) (some 0)

/-- The character of a code point; there is none for surrogates and numbers too large. -/
def charOf? (n : Nat) : Option Char :=
  if n.isValidChar then some (Char.ofNat n) else none

/-- The character that an escape stands for, after its backslash, and what follows. -/
def escapeRest : List Char → Option (Char × List Char)
  | [] => none
  | c :: rest =>
    let found : Option (Char × List Char) :=
      if c = 'b' then some ('\x08', rest)
      else if c = 'f' then some ('\x0c', rest)
      else if c = 'n' then some ('\n', rest)
      else if c = 'r' then some ('\r', rest)
      else if c = 't' then some ('\t', rest)
      else if c = 'u' then codePoint 4 rest
      else if c = 'U' then codePoint 8 rest
      else if c = 'x' then
        let digits := (rest.take 2).takeWhile fun d => (digitsIn? 16 [d]).isSome
        if digits.isEmpty then some ('x', rest)
        else byteOf (digitsIn? 16 digits) (rest.drop digits.length)
      else if '0' ≤ c ∧ c ≤ '7' then
        let digits := (rest.take 2).takeWhile fun d => (digitsIn? 8 [d]).isSome
        byteOf (digitsIn? 8 (c :: digits)) (rest.drop digits.length)
      else some (c, rest)
    match found with
    | some (ch, rest) => if ch.toNat = 0 then none else some (ch, rest)
    | none => none
where
  /-- A code point of so many hexadecimal digits, the first of which may be a plus sign. -/
  codePoint (width : Nat) (cs : List Char) : Option (Char × List Char) := do
    if cs.length < width then none
    let digits := cs.take width
    let digits := if digits.head? = some '+' then digits.drop 1 else digits
    let ch ← charOf? (← digitsIn? 16 digits)
    return (ch, cs.drop width)
  /-- A character of one byte. -/
  byteOf (n : Option Nat) (rest : List Char) : Option (Char × List Char) := do
    let n ← n
    if n % 256 < 128 then return (Char.ofNat (n % 256), rest) else none

/-- Reads an escaped string up to its closing quote. -/
def escapedRest : Nat → List Char → List Char → Option (List Char × List Char)
  | 0, _, _ => none
  | _, _, [] => none
  | fuel + 1, done, c :: rest =>
    if c = '\'' then
      match rest with
      | '\'' :: after => escapedRest fuel ('\'' :: done) after
      | _ => some (done.reverse, rest)
    else if c = '\\' then
      match escapeRest rest with
      | some (ch, rest) => escapedRest fuel (ch :: done) rest
      | none => none
    else escapedRest fuel (c :: done) rest

/-- Reads a string of code points up to its closing quote. -/
def unicodeRest : Nat → List Char → List Char → Option (List Char × List Char)
  | 0, _, _ => none
  | _, _, [] => none
  | fuel + 1, done, c :: rest =>
    if c = '\'' then
      match rest with
      | '\'' :: after => unicodeRest fuel ('\'' :: done) after
      | _ => some (done.reverse, rest)
    else if c = '\\' then
      match rest with
      | '\\' :: after => unicodeRest fuel ('\\' :: done) after
      | '+' :: after =>
        if after.length < 6 then none
        else
          match digitsIn? 16 (after.take 6) >>= charOf? with
          | some ch => unicodeRest fuel (ch :: done) (after.drop 6)
          | none => none
      | _ =>
        if rest.length < 4 then none
        else
          match digitsIn? 16 (rest.take 4) >>= charOf? with
          | some ch => unicodeRest fuel (ch :: done) (rest.drop 4)
          | none => none
    else unicodeRest fuel (c :: done) rest

/-- Reads up to a closing mark; `done` is in reverse. -/
def untilMark (mark : List Char) (done : List Char) : List Char → Option (List Char × List Char)
  | [] => none
  | c :: rest =>
    if mark.isPrefixOf (c :: rest) then some (done.reverse, (c :: rest).drop mark.length)
    else untilMark mark (c :: done) rest

/-- Reads up to a tag between dollar signs; `open_` holds what is left of the tag after a dollar sign.
A dollar sign that breaks off a tag opens no other one. -/
def taggedRest (tag : List Char) (open_ : Option (List Char)) (done : List Char) :
    List Char → Option (List Char × List Char)
  | [] => none
  | c :: rest =>
    match open_ with
    | none => taggedRest tag (if c = '$' then some tag else none) (c :: done) rest
    | some [] =>
      if c = '$' then some ((done.drop (tag.length + 1)).reverse, rest)
      else taggedRest tag none (c :: done) rest
    | some (d :: more) => taggedRest tag (if c = d then some more else none) (c :: done) rest

/-- Whether a character may stand in the tag of a string between dollar signs. -/
def isTagPart (c : Char) : Bool := isAlphabetic c || isNumber c || c == '_'

/-- Reads what follows a dollar sign. -/
def dollarRest (cs : List Char) : Option (Token × List Char) :=
  match cs with
  | '$' :: rest => do
    let (value, rest) ← untilMark ['$', '$'] [] rest
    return (.string (.dollar "") (String.ofList value), rest)
  | _ =>
    let tag := cs.takeWhile isTagPart
    match cs.drop tag.length with
    | '$' :: rest => do
      let (value, rest) ← taggedRest tag none [] rest
      return (.string (.dollar (String.ofList tag)) (String.ofList value), rest)
    | rest => some (.placeholder (String.ofList ('$' :: tag)), rest)

/-- The longest of some texts that the characters start with. -/
def longest (texts : List (List Char)) (cs : List Char) : Option (List Char) :=
  texts.find? fun t => t.isPrefixOf cs

/-- The operators that other operator characters may extend, longer ones before their beginnings. -/
def operators : List (List Char) :=
  [['~', '~', '*'], ['#', '>', '>'], ['-', '>', '>'], ['|', '|', '/'], ['<', '=', '>'], ['-', '>'],
    ['|', '/'], ['|', '|'], ['<', '='], ['<', '>'], ['<', '<'], ['<', '@'], ['>', '='], ['>', '>'],
    ['&', '&'], ['~', '*'], ['~', '~'], ['#', '-'], ['#', '>'], ['-'], ['|'], ['<'], ['>'], ['&'],
    ['~'], ['#'], ['%']]

/-- The symbols that nothing extends, longer ones before their beginnings. -/
def symbols : List (List Char) :=
  [['!', '~', '~', '*'], ['!', '~', '~'], ['!', '~', '*'], ['!', '~'], ['!', '='], ['!', '!'], ['!'],
    ['=', '>'], ['=', '='], ['='], ['@', '>'], ['@', '?'], ['@', '@'], ['@'], ['?', '|'], ['?', '&'],
    [':', ':'], [':', '='], [':'], ['^', '@'], ['^'], ['('], [')'], [','], [';'], ['/'], ['+'], ['*'],
    ['\\'], ['['], [']'], ['\x7b'], ['\x7d']]

/-- Reads an operator or another symbol.  `!=` is another spelling of `<>`, and a lone question mark
takes the next character with it. -/
def symbol (cs : List Char) : Option (Token × List Char) :=
  match longest symbols cs with
  | some read =>
    some (.symbol (if read = ['!', '='] then "<>" else String.ofList read), cs.drop read.length)
  | none =>
    match longest operators cs with
    | some read =>
      let rest := cs.drop read.length
      let more := rest.takeWhile isOperatorChar
      if more.isEmpty then some (.symbol (String.ofList read), rest)
      else some (.custom (String.ofList (read ++ more)), rest.drop more.length)
    | none =>
      match cs with
      | '?' :: rest => some (.symbol "?", rest.drop 1)
      | _ => none

/-- Reads the exponent of a number, if there is one. -/
def exponentPart (cs : List Char) : List Char :=
  match cs with
  | e :: rest =>
    if e = 'e' ∨ e = 'E' then
      let sign := match rest with
        | s :: _ => if s = '+' ∨ s = '-' then [s] else []
        | [] => []
      let digits := (rest.drop sign.length).takeWhile Char.isDigit
      if digits.isEmpty then [] else e :: sign ++ digits
    else []
  | [] => []

/-- Reads a number, or a lone point. -/
def number (cs : List Char) : Token × List Char :=
  let whole := cs.takeWhile Char.isDigit
  let rest := cs.drop whole.length
  match rest with
  | 'x' :: hex =>
    if whole = ['0'] then
      let digits := hex.takeWhile fun c => (digitsIn? 16 [c]).isSome
      (.string .hex (String.ofList digits), hex.drop digits.length)
    else decimal whole rest
  | _ => decimal whole rest
where
  /-- Reads from the point on. -/
  decimal (whole rest : List Char) : Token × List Char :=
    let point := (rest.take 1).filter (· == '.')
    let rest := rest.drop point.length
    let fraction := rest.takeWhile Char.isDigit
    let rest := rest.drop fraction.length
    let digits := whole ++ point ++ fraction
    if digits = ['.'] then (.symbol ".", rest)
    else
      let exponent := exponentPart rest
      let rest := rest.drop exponent.length
      let long := rest.head? == some 'L'
      (.number (String.ofList (digits ++ exponent)) long, if long then rest.drop 1 else rest)

/-- Reads a word. -/
def wordRest (cs : List Char) : Token × List Char :=
  match cs with
  | [] => (.ofWord [], [])
  | c :: rest =>
    let part := rest.takeWhile isWordPart
    (.ofWord (c :: part), rest.drop part.length)

/-- A string literal of a kind. -/
def stringOf (kind : StringKind) (found : Option (List Char × List Char)) :
    Option (Token × List Char) :=
  found.map fun (value, rest) => (.string kind (String.ofList value), rest)

/-- A blank that has been taken off a text. -/
def blankOf (whole rest : List Char) : Token × List Char :=
  (.blank (String.ofList (whole.take (whole.length - rest.length))), rest)

/-- Reads the first token of a text. -/
def step (c : Char) (rest : List Char) : Option (Token × List Char) :=
  if c = ' ' ∨ c = '\n' ∨ c = '\t' then some (.blank (String.singleton c), rest)
  else if c = '\r' then
    some (.blank "\n", if rest.head? = some '\n' then rest.drop 1 else rest)
  else if c = '\'' then
    (quotedRest '\'' [] rest).map fun (value, rest) => (.text (String.ofList value), rest)
  else if c = '"' then
    (quotedRest '"' [] rest).map fun (value, rest) => (.ofQuoted '"' value, rest)
  else if (c = 'n' ∨ c = 'N') ∧ rest.head? = some '\'' then
    stringOf .national (backslashedRest [] (rest.drop 1))
  else if (c = 'e' ∨ c = 'E') ∧ rest.head? = some '\'' then
    stringOf .escaped (escapedRest (rest.length + 1) [] (rest.drop 1))
  else if (c = 'x' ∨ c = 'X') ∧ rest.head? = some '\'' then
    stringOf .hex (backslashedRest [] (rest.drop 1))
  else if (c = 'u' ∨ c = 'U') ∧ ['&', '\''].isPrefixOf rest then
    stringOf .unicode (unicodeRest (rest.length + 1) [] (rest.drop 2))
  else if isWordStart c then some (wordRest (c :: rest))
  else if c.isDigit ∨ c = '.' then some (number (c :: rest))
  else if c = '-' ∧ rest.head? = some '-' then
    some (blankOf (c :: rest) ((rest.dropWhile (· != '\n')).drop 1))
  else if c = '/' ∧ rest.head? = some '*' then
    (commentRest ' ' 1 (rest.drop 1)).map (blankOf (c :: rest))
  else if c = '$' then dollarRest rest
  else
    match symbol (c :: rest) with
    | some found => some found
    | none => some (if isBlank c then .blank " " else .other c, rest)

/-- The tokens of a text, after those in `done`, last first. -/
def run : Nat → List Token → List Char → Option (List Token)
  | 0, _, _ => none
  | _, done, [] => some done.reverse
  | fuel + 1, done, c :: rest =>
    match step c rest with
    | some (t, rest) => run fuel (t :: done) rest
    | none => none

end Lex

/-- The tokens of a text; nothing when a string, a quoted name or a comment is not closed. -/
def tokens (cs : List Char) : Option (List Token) := Lex.run (cs.length + 1) [] cs

end SemanticLayer.Sql
