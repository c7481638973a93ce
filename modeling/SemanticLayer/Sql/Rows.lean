import SemanticLayer.Sql.Listing

/-
# Reading statements that write rows

`INSERT`, `UPDATE`, `DELETE`, `TRUNCATE` and `MERGE`, kept as canonical text.
-/

namespace SemanticLayer.Sql.Inner

open Reader

/-- A column set to a value. -/
def assignment (i : Inner) : Reader String := do
  let target ← if ← seesSymbol "(" then do pure ("(" ++ (← bracketed i.paths) ++ ")") else i.pathText
  symbol "="
  return target ++ " = " ++ (← i.wholeText)

/-- Columns set to values, with commas between them. -/
def assignments (i : Inner) : Reader String := do return commas (← list i.budget i.assignment)

/-- A condition on rows, if there is one. -/
def whereClause (i : Inner) : Reader String := clause ["WHERE"] i.wholeText

/-- What to answer about the rows written, if anything. -/
def returning (i : Inner) : Reader String :=
  clause ["RETURNING"] do return commas (Item.texts (← list i.budget i.item))

/-! ### `INSERT` -/

/-- What to do when a row is already there. -/
def onConflict (i : Inner) : Reader String := do
  if ← takes "ON" then
    if ← takes "CONFLICT" then
      let target ← if ← takesAll ["ON", "CONSTRAINT"] then do pure (" ON CONSTRAINT " ++ (← i.pathText))
        else if ← seesSymbol "(" then i.nameList
        else pure ""
      keyword "DO"
      if ← takes "NOTHING" then return " ON CONFLICT" ++ target ++ " DO NOTHING"
      keywords ["UPDATE", "SET"]
      let values ← i.assignments
      return " ON CONFLICT" ++ target ++ " DO UPDATE SET " ++ values ++ (← i.whereClause)
    keywords ["DUPLICATE", "KEY", "UPDATE"]
    return " ON DUPLICATE KEY UPDATE " ++ (← i.assignments)
  return ""

/-- The rows of a query that are written to files, after `DIRECTORY`. -/
def insertFiles (i : Inner) (start : String) : Reader String := do
  let place ← rawText
  let format ← clause ["STORED", "AS"] fileFormat
  return start ++ " DIRECTORY " ++ place ++ format ++ " " ++ (← i.query).render

/-- The rows that are written to a table, with the columns and the part of the table they are for. -/
def insertedRows (i : Inner) : Reader String := do
  if ← takesAll ["DEFAULT", "VALUES"] then return "DEFAULT VALUES"
  let columns ← if ← seesSymbol "(" then i.nameList else pure ""
  let partition ← if ← takes "PARTITION" then i.partition else pure ""
  return lead columns ++ lead partition ++ (← i.query).render

/-- `INSERT` after its first word. -/
def insert (i : Inner) : Reader String := do
  let mode ← firstPhrase [["INTO"], ["OVERWRITE"]]
  let near ← phrase ["LOCAL"]
  if ← takes "DIRECTORY" then
    return ← i.insertFiles ("INSERT" ++ (if mode == " INTO" then "" else mode) ++ near)
  let table ← phrase ["TABLE"]
  let n ← i.pathText
  let called ← clause ["AS"] (Name.render <$> name)
  let rows ← i.insertedRows
  let conflict ← i.onConflict
  return "INSERT" ++ mode ++ table ++ " " ++ n ++ called ++ " " ++ rows ++ conflict ++
    (← i.returning)

/-! ### `UPDATE`, `DELETE` and `TRUNCATE` -/

/-- `UPDATE` after its first word. -/
def update (i : Inner) : Reader String := do
  let t ← i.source
  keyword "SET"
  let values ← i.assignments
  let origin ← clause ["FROM"] (Source.render <$> i.source)
  let condition ← i.whereClause
  return "UPDATE " ++ t.render ++ " SET " ++ values ++ origin ++ condition ++ (← i.returning)

/-- `DELETE` after its first word. -/
def delete (i : Inner) : Reader String := do
  let tables ← if ← sees "FROM" then pure "" else do pure ((← i.paths) ++ " ")
  keyword "FROM"
  let sources ← list i.budget i.source
  let using_ ← clause ["USING"] do return commas (Source.texts (← list i.budget i.source))
  let condition ← i.whereClause
  let answered ← i.returning
  let order ← i.orderBy
  let orderText := if order.isEmpty then "" else " ORDER BY " ++ commas (Expr.orderTexts order)
  let limit ← if ← takes "LIMIT" then i.limit else pure []
  return "DELETE " ++ tables ++ "FROM " ++ commas (Source.texts sources) ++ using_ ++ condition ++
    answered ++ orderText ++ String.join (Part.texts limit)

/-- `TRUNCATE` after its first word. -/
def truncate (i : Inner) : Reader String := do
  let table ← leading ["TABLE"]
  let only ← leading ["ONLY"]
  let names ← i.paths
  let partition ← clause ["PARTITION"] i.rowText
  let identity ← firstPhrase [["RESTART", "IDENTITY"], ["CONTINUE", "IDENTITY"]]
  let mode ← dropMode
  return "TRUNCATE " ++ table ++ only ++ names ++ identity ++ mode ++ partition

/-! ### `MERGE` -/

/-- A branch of `MERGE`, after `WHEN`. -/
def mergeBranch (i : Inner) : Reader String := do
  let kind ← firstPhrase [["NOT", "MATCHED", "BY", "SOURCE"], ["NOT", "MATCHED", "BY", "TARGET"],
    ["NOT", "MATCHED"], ["MATCHED"]]
  if kind.isEmpty then failure
  let condition ← clause ["AND"] i.wholeText
  keyword "THEN"
  let isNew := kind == " NOT MATCHED" || kind == " NOT MATCHED BY TARGET"
  let action ← match ← oneOf (if isNew then ["INSERT"] else ["UPDATE", "DELETE"]) with
    | "UPDATE" =>
      keyword "SET"
      pure ("UPDATE SET " ++ (← i.assignments))
    | "INSERT" =>
      let columns ← i.namesBehind
      keyword "VALUES"
      pure ("INSERT" ++ columns ++ " " ++ (← i.valueRows).render)
    | k => pure k
  return "WHEN" ++ kind ++ condition ++ " THEN " ++ action

/-- The branches of `MERGE`, which end with the statement. -/
def mergeBranches (i : Inner) : Reader (List String) := many branch i.budget
where
  /-- A branch, unless the statement ends. -/
  branch : Reader (Option String) := do
    match ← peek with
    | some t =>
      if isSymbol ";" t then return none
      keyword "WHEN"
      return some (← i.mergeBranch)
    | none => return none

/-- `MERGE` after its first word. -/
def merge (i : Inner) : Reader String := do
  let into ← phrase ["INTO"]
  let t ← i.table i.budget
  keyword "USING"
  let origin ← i.table i.budget
  keyword "ON"
  let condition ← i.whole
  let branches ← i.mergeBranches
  return "MERGE" ++ into ++ " " ++ t.render ++ " USING " ++ origin.render ++ " ON " ++
    condition.render ++ " " ++ joinWith " " branches

end SemanticLayer.Sql.Inner
