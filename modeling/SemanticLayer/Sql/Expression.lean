import SemanticLayer.Sql.TypeName

/-
# Reading expressions

An expression is an operand with operators behind it.  Operators bind more or
less tightly:

| binding | operators |
| ---: | --- |
| 140 | `::` |
| 130 | `[ ]` |
| 110 | `AT TIME ZONE` |
| 100 | `^` |
| 90 | `*`, `/`, `%`, the signs |
| 80 | `+`, `-`, operators before an operand |
| 75 | `XOR` |
| 70 | every other operator |
| 60 | `BETWEEN`, `IN`, `LIKE`, `ILIKE`, `SIMILAR TO`, `REGEXP`, `OPERATOR(…)` |
| 50 | comparisons |
| 40 | `IS` |
| 30 | `NOT` |
| 20 | `AND` |
| 10 | `OR` |

An operator takes as its right side all that binds more tightly, with one
exception: the right side of `IS DISTINCT FROM` is a whole expression.
-/

namespace SemanticLayer.Sql

/-- The readers of what is nested one level deeper, and the budget of lists. -/
structure Inner where
  budget : Nat
  /-- An expression of operators that bind more tightly than a number says. -/
  expr : Nat → Reader Expr
  query : Reader Query

namespace Inner

open Reader

/-- An expression on its own. -/
def whole (i : Inner) : Reader Expr := i.expr 0

/-- Expressions with commas between them. -/
def exprs (i : Inner) : Reader (List Expr) := list i.budget i.whole

/-- Expressions in brackets, at least one. -/
def row (i : Inner) : Reader (List Expr) := bracketed i.exprs

/-- A query in brackets. -/
def subquery (i : Inner) : Reader Query := bracketed i.query

/-- Expressions with commas, as parts of a phrase. -/
def listed (es : List Expr) : List Part := (es.map Part.expr).intersperse (.word ", ")

/-- A term of an `ORDER BY` clause, with what follows it. -/
def orderTerm (i : Inner) : Reader (Expr × String) := do
  let e ← i.whole
  let direction ← firstPhrase [["ASC"], ["DESC"]]
  let nulls ← firstPhrase [["NULLS", "FIRST"], ["NULLS", "LAST"]]
  return (e, direction ++ nulls)

/-- The terms of an `ORDER BY` clause. -/
def orderTerms (i : Inner) : Reader (List (Expr × String)) := list i.budget i.orderTerm

/-- An `ORDER BY` clause, if there is one. -/
def orderBy (i : Inner) : Reader (List (Expr × String)) := do
  if ← takesAll ["ORDER", "BY"] then i.orderTerms else return []

/-- The terms of an `ORDER BY` clause as parts of a phrase. -/
def orderParts (terms : List (Expr × String)) : List Part :=
  ((terms.map fun (e, direction) => [Part.expr e, .word direction]).intersperse
    [.word ", "]).flatten

/-! ### Units of time -/

/-- The units that may follow the value of an interval. -/
def units : List String :=
  ["YEAR", "MONTH", "WEEK", "DAY", "HOUR", "MINUTE", "SECOND", "CENTURY", "DECADE", "DOW", "DOY",
   "EPOCH", "ISODOW", "ISOYEAR", "JULIAN", "MICROSECOND", "MICROSECONDS", "MILLENIUM", "MILLENNIUM",
   "MILLISECOND", "MILLISECONDS", "NANOSECOND", "NANOSECONDS", "QUARTER", "TIMEZONE",
   "TIMEZONE_HOUR", "TIMEZONE_MINUTE"]

/-- The parts of a time that have names of their own besides the units. -/
def fields : List String :=
  units ++ ["DAYOFWEEK", "DAYOFYEAR", "DATE", "DATETIME", "ISOWEEK", "TIME", "TIMEZONE_ABBR",
    "TIMEZONE_REGION"]

/-- A part of a time. -/
def field : Reader String := do
  match ← next with
  | .word v none k => return if fields.contains k then k else v
  | .word v q _ => return Name.render ⟨v, q⟩
  | .text s => return enclose '\'' s
  | _ => failure

/-- What follows the value of an interval. -/
def intervalTail : Reader String := do
  let unit ← if ← seesOneOf units then field else pure ""
  if unit == "SECOND" then
    if ← seesSymbol "(" then
      let n ← TypeName.precision
      return " SECOND " ++ String.ofList (n.toList.flatMap fun c => if c = ',' then [',', ' '] else [c])
    return " SECOND"
  let leading ← TypeName.size
  let start := trail unit ++ trail leading
  if ← takes "TO" then
    let stop ← field
    let digits ← if stop == "SECOND" then TypeName.size else pure ""
    return start ++ " TO " ++ stop ++ trail digits
  return start

/-! ### Function calls -/

/-- A `*` with qualifiers, or an expression. -/
def starOrExpr (i : Inner) : Reader Expr := do
  match ← attempt (do if ← takesSymbol "*" then return [] else qualifiers) with
  | some path => return .star path
  | none => i.whole
where
  /-- The qualifiers of a `*`. -/
  qualifiers : Reader (List Name) := do
    let first ← name
    symbol "."
    let more ← many (attempt do
      let n ← name
      symbol "."
      return n) i.budget
    symbol "*"
    return first :: more

/-- An argument of a function. -/
def argument (i : Inner) : Reader Expr := do
  if ((← ahead 2).drop 1).any (isSymbol "=>") then
    let n ← name
    symbol "=>"
    let e ← i.starOrExpr
    return .phrase [.word (n.render ++ " => "), .expr e]
  i.starOrExpr

/-- Takes a call's `ALL` or `DISTINCT`, which may not both be there. -/
def quantifier : Reader String := do
  let all ← takes "ALL"
  let distinct ← takes "DISTINCT"
  if all ∧ distinct then failure
  return if all then "ALL" else if distinct then "DISTINCT" else ""

/-- Whether a token may start the text that stands for what a list had to leave out. -/
def startsFiller : Token → Bool
  | .text _ => true
  | .string (.dollar _) _ => false
  | .string _ _ => true
  | _ => false

/-- What becomes of a list that grows too long, if that is said. -/
def onOverflow (i : Inner) : Reader (List Part) := do
  if ← takesAll ["ON", "OVERFLOW"] then
    if ← takes "ERROR" then return [.word " ON OVERFLOW ERROR"]
    keyword "TRUNCATE"
    let filler ← if ← seesOneOf ["WITH", "WITHOUT"] then pure []
      else if (← peek).any startsFiller then do pure [.word " ", .expr (← i.whole)]
      else failure
    let count ← oneOf ["WITH", "WITHOUT"]
    keyword "COUNT"
    return .word " ON OVERFLOW TRUNCATE" :: filler ++ [.word (" " ++ count ++ " COUNT")]
  return []

/-- The arguments of a call after its opening bracket: quantifier, arguments and clauses. -/
def arguments (i : Inner) : Reader (String × List Expr × List Part) := do
  if ← takesSymbol ")" then return ("", [], [])
  let q ← quantifier
  let args ← list i.budget i.argument
  let order ← i.orderBy
  let orderClause := if order.isEmpty then [] else .word " ORDER BY " :: orderParts order
  let limit ← whenTakes "LIMIT" i.whole
  let limitClause := match limit with
    | some e => [.word " LIMIT ", .expr e]
    | none => []
  let overflow ← i.onOverflow
  symbol ")"
  return (q, args, orderClause ++ limitClause ++ overflow)

/-- An interval after its first word; `operand` reads its value. -/
def intervalOf (operand : Reader Expr) : Reader Expr := do
  let v ← operand
  let tail ← intervalTail
  return .phrase [.word "INTERVAL ", .expr v, .word tail]

/-- The bound of a window's frame; a text is an interval. -/
def frameBound (i : Inner) : Reader (List Part) := do
  if ← takesAll ["CURRENT", "ROW"] then return [.word "CURRENT ROW"]
  let start ← if ← takes "UNBOUNDED" then pure (Part.word "UNBOUNDED") else
    match ← peek with
    | some (.text _) => do pure (Part.expr (← intervalOf textValue))
    | _ => do pure (Part.expr (← i.whole))
  return [start, .word (" " ++ (← oneOf ["PRECEDING", "FOLLOWING"]))]
where
  /-- A text, with a collation if one is given. -/
  textValue : Reader Expr := do
    let e := Expr.text (← plainText)
    if ← takes "COLLATE" then
      return .postfixed e (" COLLATE " ++ renderPath (← path i.budget))
    return e

/-- The frame of a window. -/
def frame (i : Inner) : Reader (List Part) := do
  let unit ← oneOf ["ROWS", "RANGE", "GROUPS"]
  if ← takes "BETWEEN" then
    let low ← i.frameBound
    keyword "AND"
    let high ← i.frameBound
    return .word (unit ++ " BETWEEN ") :: low ++ .word " AND " :: high
  return .word (unit ++ " ") :: (← i.frameBound)

/-- A window after its opening bracket. -/
def window (i : Inner) : Reader (List Part) := do
  let base ← match ← peek with
    | some (.word v q k) =>
      if q.isSome ∨ ¬isKeywordText k then do
        skip
        pure [[Part.word (Name.render ⟨v, q⟩)]]
      else pure []
    | _ => pure []
  let partition ← if ← takesAll ["PARTITION", "BY"] then do
      pure [.word "PARTITION BY " :: listed (← i.exprs)]
    else pure []
  let order ← i.orderBy
  let order := if order.isEmpty then [] else [.word "ORDER BY " :: orderParts order]
  let frame ← if ← seesSymbol ")" then pure [] else do pure [← i.frame]
  symbol ")"
  return .word "(" :: ((base ++ partition ++ order ++ frame).intersperse [.word " "]).flatten ++
    [.word ")"]

/-- What follows the closing bracket of a call. -/
def callSuffix (i : Inner) : Reader (List Part) := do
  let within ← if ← takesAll ["WITHIN", "GROUP"] then do
      let terms ← bracketed (do
        keyword "ORDER"
        keyword "BY"
        i.orderTerms)
      pure (.word " WITHIN GROUP (ORDER BY " :: orderParts terms ++ [.word ")"])
    else pure []
  let filter ← if ← takes "FILTER" then do
      if ← takesSymbol "(" then
        if ← takes "WHERE" then
          let e ← i.whole
          symbol ")"
          pure [.word " FILTER (WHERE ", .expr e, .word ")"]
        else pure []
      else pure []
    else pure []
  let nulls ← match ← takesOneOf ["RESPECT", "IGNORE"] with
    | some k => do
      keyword "NULLS"
      pure (" " ++ k ++ " NULLS")
    | none => pure ""
  let window ← if ← takes "OVER" then do
      if ← takesSymbol "(" then pure (.word " OVER " :: (← i.window))
      else pure [.word (" OVER " ++ (← name).render)]
    else pure []
  return within ++ filter ++ .word nulls :: window

/-- A call of a function, from its opening bracket on. -/
def call (i : Inner) (function : List Name) : Reader Expr := do
  symbol "("
  let (q, args, clauses) ← i.arguments
  let suffix ← i.callSuffix
  return .call function q args clauses suffix

/-! ### Operands that start with a keyword -/

/-- `CASE` after its first word. -/
def caseOf (i : Inner) : Reader Expr := do
  let operand ← if ← sees "WHEN" then pure none else do pure (some (← i.whole))
  let branches ← many branch i.budget
  if branches.isEmpty then failure
  let otherwise ← whenTakes "ELSE" i.whole
  keyword "END"
  return .case operand branches otherwise
where
  /-- A branch. -/
  branch : Reader (Option (Expr × Expr)) := do
    if ← takes "WHEN" then
      let condition ← i.whole
      keyword "THEN"
      return some (condition, ← i.whole)
    return none

/-- A cast of a form, after the function's name. -/
def castOf (i : Inner) (function : String) : Reader Expr := bracketed do
  let e ← i.whole
  keyword "AS"
  let t ← TypeName.read i.budget
  let format ← if ← takes "FORMAT" then do
      let v ← value
      let zone ← if ← takesAll ["AT", "TIME", "ZONE"] then do
          pure (" AT TIME ZONE " ++ (← value).render)
        else pure ""
      pure ("FORMAT " ++ v.render ++ zone)
    else pure ""
  return .cast (.call function) e t.text format

/-- `CONVERT` after its first word. -/
def convertOf (i : Inner) : Reader Expr := bracketed do
  let e ← i.whole
  if ← takes "USING" then
    let charset ← path i.budget
    return .phrase [.word "CONVERT(", .expr e, .word (" USING " ++ renderPath charset ++ ")")]
  symbol ","
  let t ← TypeName.read i.budget
  let charset ← if ← takesAll ["CHARACTER", "SET"] then do
      pure (" CHARACTER SET " ++ renderPath (← path i.budget))
    else pure ""
  return .phrase [.word "CONVERT(", .expr e, .word (", " ++ t.text ++ charset ++ ")")]

/-- `EXTRACT` after its first word. -/
def extractOf (i : Inner) : Reader Expr := bracketed do
  let f ← field
  keyword "FROM"
  let e ← i.whole
  return .phrase [.word ("EXTRACT(" ++ f ++ " FROM "), .expr e, .word ")"]

/-- `CEIL` or `FLOOR` after its first word. -/
def roundOf (i : Inner) (function : String) : Reader Expr := bracketed do
  let e ← i.whole
  let tail ← if ← takes "TO" then do pure (" TO " ++ (← field))
    else if ← takesSymbol "," then do
      match ← value with
      | .number ds long => pure (", " ++ (Expr.number ds long).render)
      | _ => failure
    else pure ""
  return .phrase [.word (function ++ "("), .expr e, .word (tail ++ ")")]

/-- `POSITION` after its first word, when brackets follow. -/
def positionOf (i : Inner) (n : Name) : Reader Expr := do
  match ← attempt position with
  | some e => return e
  | none => i.call [n]
where
  /-- The form with `IN`. -/
  position : Reader Expr := bracketed do
    let e ← i.expr 60
    keyword "IN"
    let within ← i.whole
    return .phrase [.word "POSITION(", .expr e, .word " IN ", .expr within, .word ")"]

/-- `SUBSTRING` after its first word. -/
def substringOf (i : Inner) : Reader Expr := bracketed do
  let e ← i.whole
  let comma ← takesSymbol ","
  let start ← if comma then pure true else takes "FROM"
  let start ← if start then do pure (some (← i.whole)) else pure none
  let length ← if ← takes "FOR" then pure true else takesSymbol ","
  let length ← if length then do pure (some (← i.whole)) else pure none
  let startParts := match start with
    | some f => [.word (if comma then ", " else " FROM "), .expr f]
    | none => []
  let lengthParts := match length with
    | some f => [.word (if comma then ", " else " FOR "), .expr f]
    | none => []
  return .phrase (.word "SUBSTRING(" :: .expr e :: startParts ++ lengthParts ++ [.word ")"])

/-- `OVERLAY` after its first word. -/
def overlayOf (i : Inner) : Reader Expr := bracketed do
  let e ← i.whole
  keyword "PLACING"
  let what ← i.whole
  keyword "FROM"
  let start ← i.whole
  let length ← whenTakes "FOR" i.whole
  let lengthParts := match length with
    | some f => [.word " FOR ", .expr f]
    | none => []
  return .phrase ([.word "OVERLAY(", .expr e, .word " PLACING ", .expr what, .word " FROM ",
    .expr start] ++ lengthParts ++ [.word ")"])

/-- `TRIM` after its first word; a comma may stand before the closing bracket. -/
def trimOf (i : Inner) : Reader Expr := bracketed do
  let side ← takesOneOf ["BOTH", "LEADING", "TRAILING"]
  let e ← i.whole
  let start := "TRIM(" ++ lead (side.getD "")
  if ← takes "FROM" then
    let within ← i.whole
    return .phrase [.word start, .expr e, .word " FROM ", .expr within, .word ")"]
  let _ ← takesSymbol ","
  return .phrase [.word start, .expr e, .word ")"]

/-- Expressions between square brackets, after the opening one. -/
def arrayOf (i : Inner) (start : String) : Reader Expr := do
  let es ← if ← seesSymbol "]" then pure [] else i.exprs
  symbol "]"
  return .phrase (.word (start ++ "[") :: listed es ++ [.word "]"])

/-- A name with what its dots and brackets make of it, after the first part. -/
def named (i : Inner) (first : Name) : Reader Expr := do
  let more ← many dotted i.budget
  let path := first :: more
  if ← takesSymbol "." then
    symbol "*"
    return .star path
  if ← seesSymbol "(" then i.call path else return .column path
where
  /-- A part after a dot. -/
  dotted : Reader (Option Name) := attempt do
    symbol "."
    name

/-- An operand that starts with a keyword of its own, after that keyword. -/
def keywordOperand (i : Inner) (k : String) (n : Name) : Option (Reader Expr) :=
  if k == "TRUE" then some (return .literal "true")
  else if k == "FALSE" then some (return .literal "false")
  else if k == "NULL" then some (return .null)
  else if ["CURRENT_CATALOG", "CURRENT_USER", "SESSION_USER", "USER"].contains k then
    some (return .column [n])
  else if ["CURRENT_TIMESTAMP", "CURRENT_TIME", "CURRENT_DATE", "LOCALTIME",
      "LOCALTIMESTAMP"].contains k then
    some do
      if ← takesSymbol "(" then
        let (q, args, clauses) ← i.arguments
        return .call [n] q args clauses []
      return .column [n]
  else if k == "CASE" then some i.caseOf
  else if k == "CONVERT" then some i.convertOf
  else if ["CAST", "TRY_CAST", "SAFE_CAST"].contains k then some (i.castOf k)
  else if k == "EXISTS" then some do return .exist false (← i.subquery)
  else if k == "EXTRACT" then some i.extractOf
  else if ["CEIL", "FLOOR"].contains k then some (i.roundOf k)
  else if k == "SUBSTRING" then some i.substringOf
  else if k == "OVERLAY" then some i.overlayOf
  else if k == "TRIM" then some i.trimOf
  else if k == "NOT" then some do
    if ← takes "EXISTS" then return .exist true (← i.subquery)
    return .unary "NOT " (← i.expr 30)
  else none

/-- An operand that starts with a word, after that word.  A word that starts with `_` may name the
characters of the text behind it. -/
def wordOperand (i : Inner) (k : String) (n : Name) : Reader Expr := do
  match keywordOperand i k n with
  | some r => r
  | none =>
    if k == "POSITION" then
      if ← seesSymbol "(" then i.positionOf n else i.named n
    else if k == "ARRAY" then
      if ← takesSymbol "[" then i.arrayOf "ARRAY"
      else if ← seesSymbol "(" then
        let q ← i.subquery
        return .phrase [.word (n.render ++ "("), .query q, .word ")"]
      else i.named n
    else if n.value.startsWith "_" then
      match ← peek with
      | some (.text s) => skip; return .literal (n.value ++ " " ++ stringLiteral s)
      | some (.string .hex s) => skip; return .literal (n.value ++ " " ++ spelling .hex s)
      | _ => i.named n
    else i.named n

/-- What stands in brackets, from the opening bracket on. -/
def bracketOperand (i : Inner) : Reader Expr := do
  let e ← bracketed do
    if ← seesOneOf ["SELECT", "WITH"] then return .subquery (← i.query)
    match ← i.exprs with
    | [e] => return .nested e
    | es => return .tuple es
  if ← takesSymbol "." then
    match ← next with
    | .word v q _ => return .phrase [.expr e, .word ("." ++ Name.render ⟨v, q⟩)]
    | _ => failure
  return e

/-- An operand that starts with a symbol. -/
def symbolOperand (i : Inner) (s : String) : Reader Expr := do
  if s == "(" then i.bracketOperand
  else
    skip
    if s == "[" then i.arrayOf ""
    else if s == "-" ∨ s == "+" then return .unary s (← i.expr 90)
    else if ["!!", "|/", "||/", "@", "~"].contains s then return .unary s (← i.expr 80)
    else if s == ":" then placeAfter ":"
    else failure

/-- An operand other than an interval or another literal with its type before it. -/
def plainOperand (i : Inner) : Reader Expr := do
  match ← peek with
  | some (.word v q k) =>
    skip
    i.wordOperand k ⟨v, q⟩
  | some (.symbol s) => i.symbolOperand s
  | some _ => value
  | none => failure

/-- A literal with its type before it; `operand` reads the value of an interval. -/
def typedLiteral (i : Inner) (operand : Reader Expr) : Reader Expr := do
  match ← TypeName.read i.budget with
  | .interval => intervalOf operand
  | .standard t => return .typed t (← literalText isKeywordText)
  | .custom _ _ => failure

/-- An operand.  The value of an interval is an operand too, so intervals take from the budget. -/
def operand (i : Inner) : Nat → Reader Expr
  | 0 => failure
  | budget + 1 => do
    match ← attempt (i.typedLiteral (operand i budget)) with
    | some e => return e
    | none =>
      let e ← if ← takes "INTERVAL" then intervalOf (operand i budget) else i.plainOperand
      if ← takes "COLLATE" then
        let collation ← path i.budget
        return .postfixed e (" COLLATE " ++ renderPath collation)
      return e

/-! ### Operators -/

/-- The operators between two operands that bind at 70. -/
def otherOperators : List String :=
  ["->", "->>", "#>", "#>>", "@>", "<@", "#-", "@?", "@@", "?", "?&", "?|", "&&", "^@", "||", "#",
   ">>", "<<", "|", "&"]

/-- The comparisons. -/
def comparisons : List String :=
  ["=", "<", "<=", "<>", "!=", ">", ">=", "==", "~", "~*", "!~", "!~*", "~~", "~~*", "!~~", "!~~*",
   "<=>"]

/-- How tightly an operator that is a symbol binds; zero if it is no operator. -/
def symbolBinding (s : String) : Nat :=
  if s == "::" then 140
  else if s == "[" then 130
  else if s == "^" then 100
  else if s == "*" ∨ s == "/" ∨ s == "%" then 90
  else if s == "+" ∨ s == "-" then 80
  else if otherOperators.contains s ∨ s == "!" then 70
  else if comparisons.contains s then 50
  else 0

/-- The keywords that bind like `BETWEEN`, after `NOT` too. -/
def likeWords : List String :=
  ["IN", "BETWEEN", "LIKE", "ILIKE", "RLIKE", "REGEXP", "SIMILAR"]

/-- Whether a token is one of some keywords. -/
def isOneOf (keywords : List String) (t : Option Token) : Bool :=
  match t with
  | some (.word _ none k) => keywords.contains k
  | _ => false

/-- How tightly the operator ahead binds; zero if there is none. -/
def binding : List Token → Nat
  | .symbol s :: _ => symbolBinding s
  | .custom _ :: _ => 70
  | .word _ none k :: rest =>
    if k == "OR" then 10
    else if k == "AND" then 20
    else if k == "XOR" then 75
    else if k == "IS" then 40
    else if k == "NOT" then if isOneOf likeWords rest.head? then 60 else 0
    else if likeWords.contains k ∨ k == "OPERATOR" then 60
    else if k == "DIV" then 90
    else if k == "COLLATE" then 120
    else if k == "AT" then
      if isOneOf ["TIME"] rest.head? ∧ isOneOf ["ZONE"] (rest.drop 1).head? then 110 else 0
    else 0
  | _ => 0

/-- The canonical spelling of an operator. -/
def canonical (s : String) : String :=
  if s == "==" then "=" else if s == "!=" then "<>" else s

/-- The right side of an operator between two operands. -/
def rightSide (i : Inner) (left : Expr) (operator : String) (at_ : Nat) : Reader Expr := do
  match ← takesOneOf ["ANY", "ALL"] with
  | some q =>
    let right ← bracketed (i.expr at_)
    if [">", "<", ">=", "<=", "=", "<>"].contains operator then
      return .quantified left operator q (.nested right)
    failure
  | none => return .binary left operator (← i.expr at_)

/-- The test after `IS`. -/
def isTest (i : Inner) (e : Expr) : Reader Expr := do
  let negated ← takes "NOT"
  match ← takesOneOf ["NULL", "TRUE", "FALSE", "UNKNOWN", "DISTINCT"] with
  | some "DISTINCT" =>
    keyword "FROM"
    return .distinct negated e (← i.whole)
  | some k => return .test e ((if negated then "NOT " else "") ++ k)
  | none => failure

/-- The `ESCAPE` clause of a pattern. -/
def escapeClause : Reader String := do
  if ← takes "ESCAPE" then return " ESCAPE '" ++ (← literalText isKeywordText) ++ "'"
  return ""

/-- What follows `IN`. -/
def inOf (i : Inner) (e : Expr) (negated : Bool) : Reader Expr := do
  if ← takes "UNNEST" then
    let array ← bracketed i.whole
    return .phrase [.expr e, .word (renderNot negated ++ " IN UNNEST("), .expr array, .word ")"]
  bracketed do
    if ← seesOneOf ["SELECT", "WITH"] then return .inQuery negated e (← i.query)
    return .inList negated e (← i.exprs)

/-- The operators that bind like `BETWEEN`, from an optional `NOT` on. -/
def likeOf (i : Inner) (e : Expr) : Reader Expr := do
  let negated ← takes "NOT"
  match ← takesOneOf likeWords with
  | some "IN" => i.inOf e negated
  | some "BETWEEN" =>
    let low ← i.expr 60
    keyword "AND"
    let high ← i.expr 60
    return .between negated e low high
  | some "SIMILAR" =>
    keyword "TO"
    pattern negated "SIMILAR TO"
  | some "REGEXP" =>
    let _ ← takes "RLIKE"
    regular negated "REGEXP"
  | some "RLIKE" => regular negated "RLIKE"
  | some k => pattern negated k
  | none => failure
where
  /-- A regular expression. -/
  regular (negated : Bool) (operator : String) : Reader Expr := do
    return .phrase [.expr e, .word (renderNot negated ++ " " ++ operator ++ " "), .expr (← i.expr 60)]
  /-- A pattern with the character that escapes in it. -/
  pattern (negated : Bool) (operator : String) : Reader Expr := do
    let p ← i.expr 60
    let escape ← escapeClause
    return .phrase [.expr e, .word (renderNot negated ++ " " ++ operator ++ " "), .expr p, .word escape]

/-- An element or a slice of an array, after the opening bracket. -/
def subscript (i : Inner) (e : Expr) : Reader Expr := do
  let low ← if ← seesSymbol ":" then pure [] else do pure [Part.expr (← i.whole)]
  if ¬low.isEmpty ∧ (← takesSymbol "]") then
    return .phrase (.expr e :: .word "[" :: low ++ [.word "]"])
  symbol ":"
  let high ← bound
  let stride ← if high.isEmpty then pure [] else if ← takesSymbol ":" then bound else pure []
  let stride := if stride.isEmpty then [] else .word ":" :: stride
  symbol "]"
  return .phrase (.expr e :: .word "[" :: low ++ .word ":" :: high ++ stride ++ [.word "]"])
where
  /-- A bound, if there is one before the bracket. -/
  bound : Reader (List Part) := do
    if ← seesSymbol "]" then return [] else return [.expr (← i.whole)]

/-- An operator's name after `OPERATOR`. -/
def operatorName (i : Inner) : Reader String := bracketed do
  let parts ← separated "." (Token.show_ <$> next) i.budget
  return "OPERATOR(" ++ joinWith "." parts ++ ")"

/-- What the operator ahead, which binds as tightly as a number says, makes of its left side. -/
def infixOf (i : Inner) (e : Expr) (at_ : Nat) : Reader Expr := do
  match ← peek with
  | some (.symbol s) =>
    skip
    if s == "::" then return .cast .colons e (← TypeName.read i.budget).text ""
    else if s == "!" then return .postfixed e "!"
    else if s == "[" then i.subscript e
    else i.rightSide e (canonical s) at_
  | some (.custom s) =>
    skip
    i.rightSide e s at_
  | some (.word _ _ k) =>
    if k == "AND" ∨ k == "OR" ∨ k == "XOR" then
      skip
      i.rightSide e k at_
    else if k == "OPERATOR" then
      skip
      i.rightSide e (← i.operatorName) at_
    else if k == "IS" then
      skip
      i.isTest e
    else if k == "AT" then
      keyword "AT"
      keyword "TIME"
      keyword "ZONE"
      return .binary e "AT TIME ZONE" (← i.expr at_)
    else i.likeOf e
  | _ => failure

/-- Operators behind an expression, as long as they bind more tightly than a number says. -/
def operators (i : Inner) (least : Nat) : Nat → Expr → Reader Expr
  | 0, _ => failure
  | budget + 1, e => do
    let at_ := binding (← ahead 3)
    if least < at_ then operators i least budget (← i.infixOf e at_) else return e

/-- An expression of operators that bind more tightly than a number says. -/
def expression (i : Inner) (least : Nat) : Reader Expr := do
  operators i least i.budget (← operand i i.budget)

end Inner

end SemanticLayer.Sql
