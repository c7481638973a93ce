import SemanticLayer.Sql.Definition

/-
# Reading statements that change what has been made

`ALTER` of tables, views, indexes and roles, kept as canonical text.
-/

namespace SemanticLayer.Sql.Inner

open Reader

/-! ### Tables -/

/-- How the type or the values of a column change. -/
def typeChange (i : Inner) : Reader String := do
  let t ← TypeName.read i.budget
  return "SET DATA TYPE " ++ t.text ++ (← clause ["USING"] i.wholeText)

/-- A change of a column. -/
def columnChange (i : Inner) : Reader String := do
  if ← takesAll ["SET", "NOT", "NULL"] then return "SET NOT NULL"
  if ← takesAll ["DROP", "NOT", "NULL"] then return "DROP NOT NULL"
  if ← takesAll ["SET", "DEFAULT"] then return "SET DEFAULT " ++ (← i.wholeText)
  if ← takesAll ["DROP", "DEFAULT"] then return "DROP DEFAULT"
  if ← takesAll ["SET", "DATA", "TYPE"] then return ← i.typeChange
  if ← takes "TYPE" then return ← i.typeChange
  keywords ["ADD", "GENERATED"]
  let when_ ← firstPhrase [["ALWAYS"], ["BY", "DEFAULT"]]
  keywords ["AS", "IDENTITY"]
  let options ← if ← seesSymbol "(" then do pure (" (" ++ (← bracketed sequenceOptions) ++ " )")
    else pure ""
  return "ADD GENERATED" ++ when_ ++ " AS IDENTITY" ++ options

/-- What is added to a table, after `ADD`. -/
def addition (i : Inner) : Reader String := do
  match ← i.tableConstraint with
  | some c => return "ADD " ++ c
  | none =>
    let before ← phrase ["IF", "NOT", "EXISTS"]
    let parts ← many (whenTakes "PARTITION" i.partition) i.budget
    if ¬parts.isEmpty then return "ADD" ++ before ++ String.join (parts.map trail)
    let column ← phrase ["COLUMN"]
    let behind ← phrase ["IF", "NOT", "EXISTS"]
    return "ADD" ++ column ++ (if behind.isEmpty then before else behind) ++ " " ++ (← i.columnDef)

/-- The kind of a part of a table, a column unless a constraint is named. -/
def partKind : Reader String := do
  if ← takes "CONSTRAINT" then return "CONSTRAINT "
  let _ ← takes "COLUMN"
  return "COLUMN "

/-- What gets another name in a table, after `RENAME`. -/
def newNames (i : Inner) : Reader String := do
  if ← takes "TO" then return "RENAME TO " ++ (← i.pathText)
  let kind ← partKind
  let old ← name
  keyword "TO"
  return "RENAME " ++ kind ++ old.render ++ " TO " ++ (← name).render

/-- What is taken out of a table, after `DROP`.  The words for a primary key and a projection are
taken, and say nothing. -/
def removal (i : Inner) : Reader String := do
  if ← takesAll ["IF", "EXISTS", "PARTITION"] then return "DROP IF EXISTS " ++ (← i.partition)
  if ← takes "PARTITION" then return "DROP " ++ (← i.partition)
  let isConstraint ← sees "CONSTRAINT"
  unless isConstraint do
    let _ ← takesAll ["PRIMARY", "KEY"]
    let _ ← takes "PROJECTION"
  let kind ← if isConstraint then partKind else do
    let _ ← takes "COLUMN"
    pure "COLUMN "
  let exists_ ← leading ["IF", "EXISTS"]
  let n ← name
  return "DROP " ++ kind ++ exists_ ++ n.render ++ (← phrase ["CASCADE"])

/-- A rule or trigger of a table, or the security of its rows, that is switched on or off. -/
def switched (modes : List (List String)) : Reader String := do
  let security ← phrase ["ROW", "LEVEL", "SECURITY"]
  if ¬security.isEmpty then return security
  let mode ← firstPhrase (modes.flatMap fun m => [m ++ ["RULE"], m ++ ["TRIGGER"]])
  if mode.isEmpty then failure
  return mode ++ " " ++ (← name).render

/-- A column with a new type and new options. -/
def newColumn (i : Inner) : Reader String := do
  let n ← name
  let t ← TypeName.read i.budget
  return n.render ++ " " ++ t.text ++ String.join ((← many i.columnOption i.budget).map trail)

/-- Who owns a table. -/
def owner : Reader String := do
  match ← takesOneOf ["CURRENT_USER", "CURRENT_ROLE", "SESSION_USER"] with
  | some k => return k
  | none => return (← name).render

/-- A change of a table.  Words about projections before it are taken, and say nothing. -/
def tableChange (i : Inner) : Reader String := do
  if ← takes "ADD" then return ← i.addition
  if ← takes "RENAME" then return ← i.newNames
  if ← takes "DISABLE" then return "DISABLE" ++ (← switched [[]])
  if ← takes "ENABLE" then return "ENABLE" ++ (← switched [["ALWAYS"], ["REPLICA"], []])
  let _ ← takesAll ["CLEAR", "PROJECTION"]
  let _ ← takesAll ["MATERIALIZE", "PROJECTION"]
  if ← takes "DROP" then return ← i.removal
  if ← takes "PARTITION" then
    let old ← i.partition
    keywords ["RENAME", "TO", "PARTITION"]
    return old ++ " RENAME TO " ++ (← i.partition)
  if ← takes "CHANGE" then
    let _ ← takes "COLUMN"
    let old ← name
    return "CHANGE COLUMN " ++ old.render ++ " " ++ (← i.newColumn)
  if ← takes "MODIFY" then
    let _ ← takes "COLUMN"
    return "MODIFY COLUMN " ++ (← i.newColumn)
  if ← takes "ALTER" then
    let _ ← takes "COLUMN"
    let n ← name
    return "ALTER COLUMN " ++ n.render ++ " " ++ (← i.columnChange)
  if ← takes "SWAP" then
    keyword "WITH"
    return "SWAP WITH " ++ (← i.pathText)
  if ← takesAll ["OWNER", "TO"] then return "OWNER TO " ++ (← owner)
  keywords ["SET", "TBLPROPERTIES"]
  return "SET TBLPROPERTIES" ++ (← i.optionList)

/-- Where the rows of a table go, if that is said. -/
def newLocation : Reader String := do
  let words ← firstPhrase [["LOCATION"], ["SET", "LOCATION"]]
  if words.isEmpty then return ""
  return words ++ " " ++ (← name).render

/-- `ALTER TABLE` after its keywords. -/
def alterTable (i : Inner) : Reader String := do
  let exists_ ← leading ["IF", "EXISTS"]
  let only ← leading ["ONLY"]
  let n ← i.pathText
  let cluster ← onCluster
  let changes ← list i.budget i.tableChange
  return "ALTER TABLE " ++ exists_ ++ only ++ n ++ cluster ++ " " ++ commas changes ++ (← newLocation)

/-! ### Roles -/

/-- The value of a setting of a role. -/
def settingText (i : Inner) : Reader String := do
  if ← takesAll ["FROM", "CURRENT"] then return " FROM CURRENT"
  let assigned ← if ← takesSymbol "=" then pure true else takes "TO"
  if ¬assigned then failure
  if ← takes "DEFAULT" then return " TO DEFAULT"
  return " TO " ++ (← i.wholeText)

/-- A change of a role. -/
def roleChange (i : Inner) : Reader String := do
  let database ← if ← takesAll ["IN", "DATABASE"] then pathIfAny i.budget else pure none
  let database := match database with
    | some n => "IN DATABASE " ++ renderPath n ++ " "
    | none => ""
  if ← takes "RENAME" then
    keyword "TO"
    return "RENAME TO " ++ (← name).render
  if ← takes "SET" then
    let n ← i.pathText
    return database ++ "SET " ++ n ++ (← i.settingText)
  if ← takes "RESET" then
    if ← takes "ALL" then return database ++ "RESET ALL"
    return database ++ "RESET " ++ (← i.pathText)
  let _ ← takes "WITH"
  let options ← many i.roleOption i.budget
  if options.isEmpty ∨ options.any (fun o => inRolesPlace ≤ o.1) then failure
  return "WITH" ++ String.join (options.map (·.2))

/-! ### All that can be changed -/

/-- `ALTER` after its first word. -/
def alter (i : Inner) : Reader String := do
  match ← oneOf ["TABLE", "VIEW", "INDEX", "ROLE"] with
  | "TABLE" => i.alterTable
  | "VIEW" =>
    let n ← i.pathText
    let columns ← i.namesBehind
    let options ← i.withOptions
    keyword "AS"
    return "ALTER VIEW " ++ n ++ options ++ columns ++ " AS " ++ (← i.query).render
  | "INDEX" =>
    let n ← i.pathText
    keywords ["RENAME", "TO"]
    return "ALTER INDEX " ++ n ++ " RENAME TO " ++ (← i.pathText)
  | _ =>
    let n ← name
    return "ALTER ROLE " ++ n.render ++ " " ++ (← i.roleChange)

end SemanticLayer.Sql.Inner
