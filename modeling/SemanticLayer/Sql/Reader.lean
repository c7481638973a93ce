import SemanticLayer.Sql.Syntax
import SemanticLayer.Sql.Token

/-
# Reading tokens

A reader takes a tree off the front of a list of tokens, or finds that there
is none; blanks between the tokens are passed over.  Readers of lists take a
budget, which is at least the number of tokens: every element takes a token,
so the budget never runs out first.

| what a reader finds | what becomes of it |
| --- | --- |
| a tree | the answer, with the tokens behind it |
| no tree | `attempt` goes on from where the reader began |
| a breakdown | nothing goes on |
-/

namespace SemanticLayer.Sql

/-- A reader of something from tokens. -/
abbrev Reader := StateT (List Token) (OptionT (Except Breakdown))

namespace Reader

/-- Ends all reading. -/
def breaks {α : Type} (b : Breakdown) : Reader α := fun _ => OptionT.mk (.error b)

/-- The next few tokens. -/
def ahead (n : Nat) : Reader (List Token) := do return Token.firstOf n (← get)

/-- The tokens from the first on that is not blank. -/
def fromNext (ts : List Token) : List Token := ts.dropWhile Token.isBlank

/-- The next token, if there is one. -/
def peek : Reader (Option Token) := do return (fromNext (← get)).head?

/-- Takes the next token. -/
def next : Reader Token := do
  match fromNext (← get) with
  | t :: rest => set rest; return t
  | [] => failure

/-- Drops the next token if there is one. -/
def skip : Reader Unit := modify fun ts => (fromNext ts).drop 1

/-- Reads if that is possible, and otherwise takes nothing. -/
def attempt {α : Type} (r : Reader α) : Reader (Option α) := fun ts =>
  OptionT.mk do
    match ← (r ts).run with
    | some (a, rest) => return some (some a, rest)
    | none => return some (none, ts)

/-- Whether a token is a symbol. -/
def isSymbol (s : String) : Token → Bool
  | .symbol t => t == s
  | _ => false

/-- Whether the next token is a keyword. -/
def sees (keyword : String) : Reader Bool := do
  match ← peek with
  | some t => return t.isKeyword keyword
  | none => return false

/-- Whether the next token is one of some keywords. -/
def seesOneOf (keywords : List String) : Reader Bool := do
  match ← peek with
  | some (.word _ none k) => return keywords.contains k
  | _ => return false

/-- Whether the next token is a symbol. -/
def seesSymbol (s : String) : Reader Bool := do
  match ← peek with
  | some t => return isSymbol s t
  | none => return false

/-- Whether the next token is a word. -/
def seesWord : Reader Bool := do
  match ← peek with
  | some (.word _ _ _) => return true
  | _ => return false

/-- Takes a keyword if it is next. -/
def takes (keyword : String) : Reader Bool := do
  if ← sees keyword then
    skip
    return true
  return false

/-- Takes a symbol if it is next. -/
def takesSymbol (s : String) : Reader Bool := do
  if ← seesSymbol s then
    skip
    return true
  return false

/-- Takes a keyword, which has to be next. -/
def keyword (k : String) : Reader Unit := do
  unless ← takes k do failure

/-- Takes several keywords, which have to be next. -/
def keywords (ks : List String) : Reader Unit := ks.forM keyword

/-- Takes a symbol, which has to be next. -/
def symbol (s : String) : Reader Unit := do
  unless ← takesSymbol s do failure

/-- Takes several keywords, one after the other, if all of them are next. -/
def takesAll (ks : List String) : Reader Bool := do
  return (← attempt (keywords ks)).isSome

/-- Takes one of some keywords if it is next. -/
def takesOneOf (keywords : List String) : Reader (Option String) := do
  match ← peek with
  | some (.word _ none k) =>
    if keywords.contains k then
      skip
      return some k
    return none
  | _ => return none

/-- Takes one of some keywords, one of which has to be next. -/
def oneOf (keywords : List String) : Reader String := do
  match ← takesOneOf keywords with
  | some k => return k
  | none => failure

/-- Takes a phrase of keywords if it is next, and answers it with a blank before it. -/
def phrase (keywords : List String) : Reader String := do
  if ← takesAll keywords then return " " ++ joinWith " " keywords
  return ""

/-- Takes the first phrase of a list that is next, and answers it with a blank before it. -/
def firstPhrase : List (List String) → Reader String
  | [] => return ""
  | keywords :: rest => do
    if ← takesAll keywords then return " " ++ joinWith " " keywords
    firstPhrase rest

/-- Takes a phrase of keywords if it is next, and answers it with a blank behind it. -/
def leading (keywords : List String) : Reader String := do
  return if ← takesAll keywords then joinWith " " keywords ++ " " else ""

/-- Reads what stands between brackets. -/
def bracketed {α : Type} (r : Reader α) : Reader α := do
  symbol "("
  let a ← r
  symbol ")"
  return a

/-- Reads with a reader if a keyword is next. -/
def whenTakes {α : Type} (k : String) (r : Reader α) : Reader (Option α) := do
  if ← takes k then return some (← r)
  return none

/-- Reads a text with a reader if some keywords are next, and answers it behind them. -/
def clause (ks : List String) (r : Reader String) : Reader String := do
  if ← takesAll ks then return " " ++ joinWith " " ks ++ " " ++ (← r)
  return ""

/-- Reads one or more elements with a symbol between them. -/
def separated {α : Type} (separator : String) (r : Reader α) : Nat → Reader (List α)
  | 0 => failure
  | budget + 1 => do
    let a ← r
    if ← takesSymbol separator then
      return a :: (← separated separator r budget)
    return [a]

/-- Reads one or more elements with commas between them. -/
def list {α : Type} (budget : Nat) (r : Reader α) : Reader (List α) := separated "," r budget

/-- Reads elements with commas between them up to a closing bracket, before which there may be none. -/
def listOrNone {α : Type} (budget : Nat) (r : Reader α) : Reader (List α) := do
  if ← seesSymbol ")" then return [] else list budget r

/-- Reads elements with a comma behind each or all but the last, then a closing bracket. -/
def listUpToBracket {α : Type} (r : Reader α) : Nat → Reader (List α)
  | 0 => failure
  | budget + 1 => do
    let a ← r
    let comma ← takesSymbol ","
    if ← takesSymbol ")" then return [a]
    if comma then return a :: (← listUpToBracket r budget) else failure

/-- Reads elements as long as there are any. -/
def many {α : Type} (r : Reader (Option α)) : Nat → Reader (List α)
  | 0 => return []
  | budget + 1 => do
    match ← r with
    | some a => return a :: (← many r budget)
    | none => return []

/-- Changes a value step by step as long as there is a step. -/
def repeated {α : Type} (step : α → Reader (Option α)) : Nat → α → Reader α
  | 0, a => return a
  | budget + 1, a => do
    match ← step a with
    | some a => repeated step budget a
    | none => return a

/-! ### Names and literals -/

/-- The name that a token is: a word, or a text in single quotes. -/
def nameOf? : Token → Option Name
  | .word value quote _ => some ⟨value, quote⟩
  | .text value => some ⟨value, some '\''⟩
  | _ => none

/-- A name. -/
def name : Reader Name := do
  match nameOf? (← next) with
  | some n => return n
  | none => failure

/-- Takes the next token, and answers the name that it is. -/
def nameIfAny : Reader (Option Name) := do
  let t ← peek
  skip
  return t >>= nameOf?

/-- Names with dots between them. -/
def path (budget : Nat) : Reader (List Name) := separated "." name budget

/-- Names with dots between them; a token that stands in the place of a name is taken, and then
there is no answer. -/
def pathIfAny : Nat → Reader (Option (List Name))
  | 0 => failure
  | budget + 1 => do
    match ← nameIfAny with
    | none => return none
    | some n =>
      if ← takesSymbol "." then return (← pathIfAny budget).map (n :: ·)
      return some [n]

/-- Names with commas between them, in brackets. -/
def names (budget : Nat) : Reader (List Name) := bracketed (list budget name)

/-- Names in brackets, if there is an opening bracket. -/
def optionalNames (budget : Nat) : Reader (List Name) := do
  if ← seesSymbol "(" then names budget else return []

/-- The value of decimal digits. -/
def wholeNumber? (ds : List Char) : Option Nat := if ds.isEmpty then none else Lex.digitsIn? 10 ds

/-- A whole number of so many bits. -/
def digitsOf (bits : Nat) : Reader String := do
  match ← next with
  | .number ds _ =>
    match wholeNumber? ds.toList with
    | some n => if n < Nat.pow 2 bits then return toString n else failure
    | none => failure
  | _ => failure

/-- A whole number of 64 bits. -/
def digits : Reader String := digitsOf 64

/-- A character of a literal with escapes, as it is written. -/
def escapedChar (c : Char) : List Char :=
  if c = '\'' then ['\\', '\'']
  else if c = '\\' then ['\\', '\\']
  else if c = '\n' then ['\\', 'n']
  else if c = '\t' then ['\\', 't']
  else if c = '\r' then ['\\', 'r']
  else [c]

/-- A number in at least so many hexadecimal digits. -/
def hexadecimal (width n : Nat) : List Char :=
  let ds := (Nat.toDigits 16 n).map Char.toUpper
  List.replicate (width - ds.length) '0' ++ ds

/-- A character of a literal of code points, as it is written. -/
def codePoint (c : Char) : List Char :=
  if c = '\'' then ['\'', '\'']
  else if c = '\\' then ['\\', '\\']
  else if c.toNat < 128 then [c]
  else if c.toNat < 0x10000 then '\\' :: hexadecimal 4 c.toNat
  else '\\' :: '+' :: hexadecimal 6 c.toNat

/-- The canonical spelling of a string literal. -/
def spelling (kind : StringKind) (value : String) : String :=
  let written := match kind with
    | .escaped => String.ofList (value.toList.flatMap escapedChar)
    | .unicode => String.ofList (value.toList.flatMap codePoint)
    | _ => value
  (Token.delimiters kind).1 ++ written ++ (Token.delimiters kind).2

/-- A place that is filled with a value, after its mark: a name or a number. -/
def placeAfter (mark : String) : Reader Expr := do
  match ← next with
  | .word v _ _ => return .literal (mark ++ v)
  | .number ds false => return .literal (mark ++ ds)
  | _ => failure

/-- A literal. -/
def value : Reader Expr := do
  match ← next with
  | .word _ none k =>
    if k == "TRUE" then return .literal "true"
    else if k == "FALSE" then return .literal "false"
    else if k == "NULL" then return .null
    else failure
  | .word v (some q) _ => return .literal (Name.render ⟨v, some q⟩)
  | .number ds long => return .number ds long
  | .text v => return .text v
  | .string kind v => return .literal (spelling kind v)
  | .placeholder t => return .literal t
  | .symbol s => if s == ":" ∨ s == "@" then placeAfter s else failure
  | _ => failure

/-- Whether a token starts a number, or a place that is filled with a value. -/
def startsNumeral : Token → Bool
  | .number _ _ => true
  | .placeholder _ => true
  | .symbol s => s == ":" || s == "@"
  | _ => false

/-- A number, or a place that is filled with one. -/
def numeral : Reader Expr := do
  if (← peek).any startsNumeral then value else failure

/-- A text in single quotes. -/
def plainText : Reader String := do
  match ← next with
  | .text v => return v
  | _ => failure

/-- A string literal, or a word that is no keyword; `isKeyword` tells keywords. -/
def literalText (isKeyword : String → Bool) : Reader String := do
  match ← next with
  | .word v none k => if isKeyword k then failure else return v
  | .word v (some _) _ => return v
  | .text v => return v
  | .string .escaped v => return v
  | .string .unicode v => return v
  | _ => failure

/-- A name after `AS`, or a name that is none of some keywords. -/
def newName? (reserved : List String) : Reader (Option Name) := do
  let after ← takes "AS"
  match ← peek with
  | some (.word v none k) =>
    if after ∨ ¬reserved.contains k then
      skip
      return some ⟨v, none⟩
    return none
  | some (.word v (some q) _) => skip; return some ⟨v, some q⟩
  | some (.text v) => skip; return some ⟨v, some '\''⟩
  | _ => if after then failure else return none

/-! ### Statements -/

/-- Drops semicolons; tells whether there were any. -/
def semicolons : Nat → Reader Bool
  | 0 => return false
  | budget + 1 => do
    if ← takesSymbol ";" then
      let _ ← semicolons budget
      return true
    return false

/-- Statements with semicolons between them, up to the end of the tokens or to an `END` right behind
a statement; `fresh` tells that no statement has just been read. -/
def statements (statement : Reader Statement) : Nat → Bool → Reader (List Statement)
  | 0, _ => failure
  | budget + 1, fresh => do
    let ended ← semicolons budget
    match ← peek with
    | none => return []
    | some t =>
      if fresh ∨ ended then
        let s ← statement
        return s :: (← statements statement budget false)
      else if t.isKeyword "END" then return []
      else failure

end Reader

end SemanticLayer.Sql
