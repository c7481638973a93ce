import SemanticLayer.Sql.Rows

/-
# Reading statements about sessions

Transactions, `SET` and `SHOW`, kept as canonical text.
-/

namespace SemanticLayer.Sql.Inner

open Reader

/-! ### Transactions -/

/-- A mode of a transaction, if one is next. -/
def transactionMode : Reader String :=
  firstPhrase [["ISOLATION", "LEVEL", "READ", "UNCOMMITTED"], ["ISOLATION", "LEVEL", "READ", "COMMITTED"],
    ["ISOLATION", "LEVEL", "REPEATABLE", "READ"], ["ISOLATION", "LEVEL", "SERIALIZABLE"],
    ["READ", "ONLY"], ["READ", "WRITE"]]

/-- The modes of a transaction, with or without commas between them; `needed` after a comma. -/
def transactionModes : Nat → Bool → Reader (List String)
  | 0, _ => failure
  | budget + 1, needed => do
    let m ← transactionMode
    if m.isEmpty then if needed then failure else return []
    return String.ofList (m.toList.drop 1) :: (← transactionModes budget (← takesSymbol ","))

/-- The modes of a transaction as text. -/
def modesText (i : Inner) : Reader String := do
  return trail (commas (← transactionModes i.budget false))

/-- Whether the next transaction has the modes of the one that ends. -/
def chain : Reader String := do
  let _ ← takesOneOf ["TRANSACTION", "WORK"]
  if ← takes "AND" then
    let no ← takes "NO"
    keyword "CHAIN"
    return if no then "" else " AND CHAIN"
  return ""

/-- `ROLLBACK` after its first word. -/
def rollback : Reader String := do
  let chained ← chain
  if ← takes "TO" then
    let _ ← takes "SAVEPOINT"
    return "ROLLBACK" ++ chained ++ " TO SAVEPOINT " ++ (← name).render
  return "ROLLBACK" ++ chained

/-! ### `SET` -/

/-- The role of a session, after `ROLE`; `range` is what stands before that word. -/
def setRole (range : String) : Reader String := do
  let role ← if ← takes "NONE" then pure "NONE" else do pure (← name).render
  return "SET" ++ range ++ " ROLE " ++ role

/-- The value of a variable. -/
def variableValue (i : Inner) : Reader Expr := do
  if ← seesOneOf ["SELECT", "WITH"] then return .subquery (← i.query) else i.whole

/-- A variable set to values, or a setting of transactions; `range` and `place` are the words before
the variable, as they are read and as they are written. -/
def setVariable (i : Inner) (range place : String) : Reader String := do
  let variable_ ← if ← takesAll ["TIME", "ZONE"] then pure "TIMEZONE" else i.pathText
  let assigned ← if ← takesSymbol "=" then pure true else takes "TO"
  if assigned then
    return "SET " ++ place ++ variable_ ++ " = " ++ exprTexts (← list i.budget i.variableValue)
  else if variable_.toUpper == "TIMEZONE" then
    return "SET " ++ (if range == " LOCAL" then place else "") ++ "TIME ZONE " ++ (← i.wholeText)
  else if variable_ == "CHARACTERISTICS" then
    keywords ["AS", "TRANSACTION"]
    return "SET SESSION CHARACTERISTICS AS TRANSACTION" ++ (← i.modesText)
  else if variable_ == "TRANSACTION" ∧ range.isEmpty then
    if ← takes "SNAPSHOT" then return "SET TRANSACTION SNAPSHOT " ++ (← value).render
    return "SET TRANSACTION" ++ (← i.modesText)
  else failure

/-- `SET` after its first word. -/
def set (i : Inner) : Reader String := do
  if ← takes "HIVEVAR" then
    symbol ":"
    return ← i.setVariable " HIVEVAR" "HIVEVAR:"
  let range ← firstPhrase [["SESSION"], ["LOCAL"]]
  if ← takes "ROLE" then return ← setRole range
  i.setVariable range (if range == " LOCAL" then "LOCAL " else "")

/-! ### `SHOW` -/

/-- Which of some things to show. -/
def showFilter (i : Inner) : Reader String := do
  match ← takesOneOf ["LIKE", "ILIKE"] with
  | some "LIKE" => return " LIKE " ++ stringLiteral (← literalText isKeywordText)
  | some _ => return " ILIKE " ++ inside '\'' (← literalText isKeywordText)
  | none => i.whereClause

/-- The words of all the tokens up to an equals sign. -/
def restOfWords : List Token → List String × List Token
  | [] => ([], [])
  | .word v q _ :: rest =>
    let (ws, rest) := restOfWords rest
    (Name.render ⟨v, q⟩ :: ws, rest)
  | t :: rest => if isSymbol "=" t then ([], t :: rest) else restOfWords rest

/-- A variable by the words left. -/
def shownVariable : Reader String := do
  let (ws, rest) := restOfWords (← get)
  modify fun _ => rest
  return "SHOW" ++ trail (joinWith " " ws)

/-- The columns of a table, after `SHOW COLUMNS`. -/
def shownColumns (i : Inner) : Reader String := do
  let _ ← oneOf ["FROM", "IN"]
  let n ← path i.budget
  let n ← match ← takesOneOf ["FROM", "IN"] with
    | some _ => do pure ((← name) :: n)
    | none => pure n
  return "COLUMNS FROM " ++ renderPath n ++ (← i.showFilter)

/-- The tables of a database, after `SHOW TABLES`. -/
def shownTables (i : Inner) : Reader String := do
  let database ← match ← takesOneOf ["FROM", "IN"] with
    | some _ => do pure (" FROM " ++ (← name).render)
    | none => pure ""
  return "TABLES" ++ database ++ (← i.showFilter)

/-- `SHOW` after its first word. -/
def show_ (i : Inner) : Reader String := do
  let extended ← leading ["EXTENDED"]
  let full ← leading ["FULL"]
  let _ ← takes "SESSION"
  let _ ← takes "GLOBAL"
  let start := "SHOW " ++ extended ++ full
  if (← takesOneOf ["COLUMNS", "FIELDS"]).isSome then return start ++ (← i.shownColumns)
  if ← takes "TABLES" then return start ++ (← i.shownTables)
  if ← takes "FUNCTIONS" then return "SHOW FUNCTIONS" ++ (← i.showFilter)
  if ¬(extended ++ full).isEmpty then failure
  if ← takes "CREATE" then
    let kind ← oneOf ["TABLE", "TRIGGER", "FUNCTION", "PROCEDURE", "EVENT", "VIEW"]
    return "SHOW CREATE " ++ kind ++ " " ++ (← i.pathText)
  if ← takes "COLLATION" then return "SHOW COLLATION" ++ (← i.showFilter)
  let _ ← takes "VARIABLES"
  let _ ← takes "STATUS"
  shownVariable

end SemanticLayer.Sql.Inner
