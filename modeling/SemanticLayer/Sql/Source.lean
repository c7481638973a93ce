import SemanticLayer.Sql.Expression

/-
# Reading the tables of a query

A table of a `FROM` clause is one of the database's own, a query in brackets,
or a function whose answer is a table; its rows and columns may trade places
(`PIVOT`, `UNPIVOT`).  Any number of tables are joined to it.
-/

namespace SemanticLayer.Sql.Inner

open Reader

/-- The name given to a table, with names for its columns. -/
def tableAlias (i : Inner) : Reader (Option Alias) := do
  match ← newName? tableReserved with
  | some n => return some ⟨n, ← optionalNames i.budget⟩
  | none => return none

/-- A name after `AS`, if one is given, as it is written behind something. -/
def givenName : Reader String := do
  if ← takes "AS" then return " AS " ++ (← name).render else return ""

/-! ### Tables by name and by function -/

/-- Arguments of a table function, after the opening bracket. -/
def tableArguments (i : Inner) : Reader (List Expr) := do
  if ← takesSymbol ")" then return []
  let args ← list i.budget i.argument
  symbol ")"
  return args

/-- Words behind the name of a table, if they are next. -/
def ordinality : Reader String := phrase ["WITH", "ORDINALITY"]

/-- Hints behind the alias of a table. -/
def hints (i : Inner) : Reader (List Part) := do
  match ← ahead 2 with
  | [first, second] =>
    if first.isKeyword "WITH" ∧ isSymbol "(" second then
      skip
      return .word " WITH (" :: listed (← i.row) ++ [.word ")"]
    return []
  | _ => return []

/-- A table by its name, or a call of a table function. -/
def namedTable (i : Inner) : Reader Factor := do
  let n ← path i.budget
  let args ← if ← takesSymbol "(" then do
      pure (.word "(" :: listed (← i.tableArguments) ++ [.word ")"])
    else pure []
  let ordinal ← ordinality
  let called ← i.tableAlias
  let hint ← i.hints
  if args.isEmpty ∧ ordinal.isEmpty ∧ hint.isEmpty then return .table n called
  return .phrase (.word (renderPath n) :: args ++ [.word ordinal]) called hint

/-- A query in brackets as a table, after the opening bracket. -/
def derivedTable (i : Inner) (lateral : Bool) : Reader Factor := do
  let q ← i.query
  symbol ")"
  return .derived lateral q (← i.tableAlias)

/-- A table of the elements of arrays, after its first word. -/
def elementTable (i : Inner) : Reader Factor := do
  let es ← i.row
  let ordinal ← ordinality
  let called ← i.tableAlias
  let offset ← if ← takes "WITH" then do
      if ← takes "OFFSET" then do
        let n ← newName? columnReserved
        pure (" WITH OFFSET" ++ match n with
          | some n => " AS " ++ n.render
          | none => "")
      else pure ""
    else pure ""
  return .phrase (.word "UNNEST(" :: listed es ++ [.word (")" ++ ordinal)]) called [.word offset]

/-- What a column of a document's table holds in place of a value, if that is said. -/
def placeholderValue : Reader (Option String) := do
  match ← takesOneOf ["NULL", "ERROR", "DEFAULT"] with
  | some "DEFAULT" => return some (" DEFAULT " ++ (← value).render)
  | some k => return some (" " ++ k)
  | none => return none

/-- A column of a document's table. -/
def documentColumn (i : Inner) : Reader String := do
  let n ← name
  let t ← TypeName.read i.budget
  let exists_ ← phrase ["EXISTS"]
  keyword "PATH"
  let place ← value
  let (empty, error) ← repeated step i.budget ("", "")
  return n.render ++ " " ++ t.text ++ exists_ ++ " PATH " ++ place.render ++ empty ++ error
where
  /-- What the column holds where nothing or no fitting value is found; the last word counts. -/
  step (found : String × String) : Reader (Option (String × String)) := do
    match ← placeholderValue with
    | some v =>
      keyword "ON"
      if ← takes "EMPTY" then return some (v ++ " ON EMPTY", found.2)
      keyword "ERROR"
      return some (found.1, v ++ " ON ERROR")
    | none => return none

/-- A table of the parts of a document, after its first word. -/
def documentTable (i : Inner) : Reader Factor := do
  let parts ← bracketed do
    let e ← i.whole
    symbol ","
    let place ← value
    keyword "COLUMNS"
    let columns ← bracketed (list i.budget i.documentColumn)
    return [.word "JSON_TABLE(", .expr e,
      .word (", " ++ place.render ++ " COLUMNS(" ++ commas columns ++ "))")]
  return .phrase parts (← i.tableAlias) []

/-- A table that starts with a keyword of its own, if one is next. -/
def keywordTable (i : Inner) : Reader (Option Factor) := do
  if ← takes "LATERAL" then
    if ← takesSymbol "(" then return some (← i.derivedTable true)
    let n ← path i.budget
    symbol "("
    let args ← i.tableArguments
    return some (.phrase (.word ("LATERAL " ++ renderPath n ++ "(") :: listed args ++ [.word ")"])
      (← i.tableAlias) [])
  if ← takes "TABLE" then
    let e ← bracketed i.whole
    return some (.phrase [.word "TABLE(", .expr e, .word ")"] (← i.tableAlias) [])
  if ← takes "UNNEST" then return some (← i.elementTable)
  match ← ahead 2 with
  | [first, second] =>
    if first.isKeyword "JSON_TABLE" ∧ isSymbol "(" second then
      skip
      return some (← i.documentTable)
    return none
  | _ => return none

/-! ### Rows and columns that trade places -/

/-- An expression with an optional name. -/
def exprWithName (i : Inner) : Reader (List Part) := do
  let e ← i.whole
  return [.expr e, .word (← givenName)]

/-- A function that gathers the values of a column, with an optional name. -/
def gathering (i : Inner) : Reader (List Part) := do
  match ← next with
  | .word v _ _ =>
    let e ← i.call [.bare v]
    return [.expr e, .word (← givenName)]
  | _ => failure

/-- The values that become columns: any, those of a query, or those of a list. -/
def columnValues (i : Inner) : Reader (List Part) := do
  if ← takes "ANY" then
    let order ← i.orderBy
    if order.isEmpty then return [.word "ANY"]
    return .word "ANY ORDER BY " :: orderParts order
  if ← seesOneOf ["SELECT", "WITH"] then return [.query (← i.query)]
  let values ← list i.budget i.exprWithName
  return (values.intersperse [.word ", "]).flatten

/-- Values that become columns, after `PIVOT`. -/
def pivot (i : Inner) : Reader (List Part) := bracketed do
  let gathered ← list i.budget i.gathering
  keyword "FOR"
  let column ← path i.budget
  keyword "IN"
  let values ← bracketed i.columnValues
  let default_ ← if ← takesAll ["DEFAULT", "ON", "NULL"] then do
      pure [.word " DEFAULT ON NULL (", .expr (← bracketed i.whole), .word ")"]
    else pure []
  return .word " PIVOT(" :: (gathered.intersperse [.word ", "]).flatten ++
    .word (" FOR " ++ renderPath column ++ " IN (") :: values ++ .word ")" :: default_ ++ [.word ")"]

/-- Columns that become values, after `UNPIVOT`. -/
def unpivot (i : Inner) : Reader (List Part) := bracketed do
  let held ← name
  keyword "FOR"
  let from_ ← name
  keyword "IN"
  let columns ← names i.budget
  return [.word (" UNPIVOT(" ++ held.render ++ " FOR " ++ from_.render ++ " IN (" ++
    commas (columns.map Name.render) ++ "))")]

/-- A table with what turns it, as often as that is said. -/
def turned (i : Inner) (table : Factor) : Reader Factor := repeated step i.budget table
where
  /-- Turns a table once. -/
  step (t : Factor) : Reader (Option Factor) := do
    if ← takes "PIVOT" then
      let parts ← i.pivot
      return some (.turned t parts (← i.tableAlias))
    if ← takes "UNPIVOT" then
      let parts ← i.unpivot
      return some (.turned t parts (← i.tableAlias))
    return none

/-! ### Joins -/

/-- The condition of a join. -/
def joinCondition (i : Inner) : Reader Condition := do
  if ← takes "ON" then return .on (← i.whole)
  if ← takes "USING" then return .sharing (← names i.budget)
  return .free

/-- The words of a join with a condition, and whether there is one. -/
def joinWords : Reader (Option String) := do
  match ← takesOneOf ["INNER", "JOIN", "LEFT", "RIGHT", "FULL"] with
  | some "INNER" => keyword "JOIN"; return some "JOIN"
  | some "JOIN" => return some "JOIN"
  | some "FULL" =>
    let _ ← takes "OUTER"
    keyword "JOIN"
    return some "FULL JOIN"
  | some side =>
    match ← takesOneOf ["OUTER", "SEMI", "ANTI", "JOIN"] with
    | some "JOIN" => return some (side ++ " JOIN")
    | some "OUTER" => keyword "JOIN"; return some (side ++ " JOIN")
    | some kind => keyword "JOIN"; return some (side ++ " " ++ kind ++ " JOIN")
    | none => failure
  | none => return none

/-- A join, if one is next; `table` reads the table joined. -/
def join (i : Inner) (table : Reader Factor) : Reader (Option Join) := do
  let isGlobal := if ← takes "GLOBAL" then "GLOBAL " else ""
  if ← takes "CROSS" then
    let kind ← oneOf ["JOIN", "APPLY"]
    return some (.mk (isGlobal ++ "CROSS " ++ kind) (← table) .free)
  if ← takes "OUTER" then
    keyword "APPLY"
    return some (.mk (isGlobal ++ "OUTER APPLY") (← table) .free)
  if ← takes "ASOF" then
    keyword "JOIN"
    let t ← table
    keyword "MATCH_CONDITION"
    let test ← bracketed i.whole
    return some (.mk (isGlobal ++ "ASOF JOIN") t (.nearest test (← i.joinCondition)))
  let natural ← takes "NATURAL"
  match ← joinWords with
  | some words =>
    let t ← table
    if natural then return some (.mk (isGlobal ++ "NATURAL " ++ words) t .free)
    return some (.mk (isGlobal ++ words) t (← i.joinCondition))
  | none => if natural then failure else return none

/-- Whether a table is a join in brackets. -/
def isNestedJoin : Factor → Bool
  | .nestedJoin _ _ => true
  | _ => false

/-- A table.  Brackets around joins are brackets around tables again, so they take from the budget. -/
def table (i : Inner) : Nat → Reader Factor
  | 0 => failure
  | budget + 1 => do
    match ← i.keywordTable with
    | some t => return t
    | none =>
      if ← takesSymbol "(" then
        match ← attempt (i.derivedTable false) with
        | some t => i.turned t
        | none =>
          let first ← table i budget
          let joins ← many (i.join (table i budget)) i.budget
          if joins.isEmpty ∧ ¬isNestedJoin first then failure
          symbol ")"
          return .nestedJoin (.mk first joins) (← i.tableAlias)
      else i.turned (← i.namedTable)

/-- A table with what is joined to it. -/
def source (i : Inner) : Reader Source := do
  let first ← i.table i.budget
  return .mk first (← many (i.join (i.table i.budget)) i.budget)

end SemanticLayer.Sql.Inner
