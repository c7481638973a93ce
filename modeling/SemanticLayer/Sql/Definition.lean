import SemanticLayer.Sql.TableDefinition

/-
# Reading statements that make things and take them away

`CREATE` and `DROP`.  These statements are kept as their canonical text:
keywords in upper case, one blank between words, commas followed by a blank.
-/

namespace SemanticLayer.Sql.Inner

open Reader

/-! ### `CREATE` -/

/-- `CREATE VIEW` after its keywords, which `start` holds. -/
def createView (i : Inner) (start : String) : Reader String := do
  let n ← i.pathText
  let columns ← if ← seesSymbol "(" then bracketed (listOrNone i.budget name) else pure []
  let columns := if columns.isEmpty then "" else " (" ++ commas (columns.map Name.render) ++ ")"
  let options ← i.withOptions
  let cluster ← if ← takes "CLUSTER" then do
      keyword "BY"
      let names ← i.namesBehind
      pure (if names.isEmpty then "" else " CLUSTER BY" ++ names)
    else pure ""
  keyword "AS"
  return start ++ "VIEW " ++ n ++ options ++ columns ++ cluster ++ " AS " ++ (← i.query).render

/-- The name of an index and the word behind it; an index that is made only if there is none has to
have a name. -/
def indexName (i : Inner) (needed : Bool) : Reader String := do
  if ¬needed ∧ (← takes "ON") then return "ON "
  let n ← i.pathText
  keyword "ON"
  return n ++ " ON "

/-- `CREATE INDEX` after its keywords, which `start` holds. -/
def createIndex (i : Inner) (start : String) : Reader String := do
  let concurrently ← leading ["CONCURRENTLY"]
  let exists_ ← leading ["IF", "NOT", "EXISTS"]
  let n ← i.indexName !exists_.isEmpty
  let t ← i.pathText
  let method ← if ← takes "USING" then do pure (" USING " ++ (← name).render ++ " ") else pure ""
  let columns ← bracketed i.orderTerms
  let included ← if ← takes "INCLUDE" then do
      pure (" INCLUDE (" ++ joinWith "," ((← names i.budget).map Name.render) ++ ")")
    else pure ""
  let nulls ← if ← takes "NULLS" then do
      let not ← phrase ["NOT"]
      keyword "DISTINCT"
      pure (" NULLS" ++ not ++ " DISTINCT")
    else pure ""
  let options ← clause ["WITH"] i.rowText
  let condition ← clause ["WHERE"] i.wholeText
  return start ++ "INDEX " ++ concurrently ++ exists_ ++ n ++ t ++ method ++ "(" ++
    joinWith "," (Expr.orderTexts columns) ++ ")" ++ included ++ nulls ++ options ++ condition

/-- `CREATE VIRTUAL TABLE` after its keywords. -/
def createVirtualTable (i : Inner) : Reader String := do
  let exists_ ← leading ["IF", "NOT", "EXISTS"]
  let n ← i.pathText
  keyword "USING"
  let module ← name
  return "CREATE VIRTUAL TABLE " ++ exists_ ++ n ++ " USING " ++ module.render ++ (← i.namesBehind)

/-- `CREATE SEQUENCE` after its keywords, which `start` holds. -/
def createSequence (i : Inner) (start : String) : Reader String := do
  let exists_ ← leading ["IF", "NOT", "EXISTS"]
  let n ← i.pathText
  let type ← clause ["AS"] (TypeName.text <$> TypeName.read i.budget)
  let options ← sequenceOptions
  let owner ← clause ["OWNED", "BY"] do
    if ← takes "NONE" then return "NONE" else i.pathText
  return start ++ "SEQUENCE " ++ exists_ ++ n ++ type ++ options ++ owner

/-- The name of a schema, or of its owner. -/
def schemaName (i : Inner) : Reader String := do
  if ← takes "AUTHORIZATION" then return "AUTHORIZATION " ++ (← name).render
  let n ← i.pathText
  return n ++ (← clause ["AUTHORIZATION"] (Name.render <$> name))

/-- `CREATE DATABASE` after its keywords. -/
def createDatabase (i : Inner) : Reader String := do
  let exists_ ← leading ["IF", "NOT", "EXISTS"]
  let n ← i.pathText
  let (place, managed) ← repeated step i.budget ("", "")
  return "CREATE DATABASE " ++ exists_ ++ n ++ place ++ managed
where
  /-- One more place; the last one of a kind counts. -/
  step (found : String × String) : Reader (Option (String × String)) := do
    if ← takes "LOCATION" then return some (" LOCATION " ++ (← rawText), found.2)
    if ← takes "MANAGEDLOCATION" then return some (found.1, " MANAGEDLOCATION " ++ (← rawText))
    return none

/-- `CREATE EXTENSION` after its keywords. -/
def createExtension : Reader String := do
  let exists_ ← leading ["IF", "NOT", "EXISTS"]
  let n ← name
  let options ← if ← takes "WITH" then do
      let schema ← clause ["SCHEMA"] (Name.render <$> name)
      let version ← clause ["VERSION"] (Name.render <$> name)
      let cascade ← phrase ["CASCADE"]
      pure (schema ++ version ++ cascade)
    else pure ""
  return "CREATE EXTENSION " ++ exists_ ++ n.render ++
    if options.isEmpty then "" else " WITH" ++ options

/-- An attribute of a type. -/
def typeAttribute (i : Inner) : Reader String := do
  let n ← name
  let t ← TypeName.read i.budget
  return n.render ++ " " ++ t.text ++ (← clause ["COLLATE"] i.pathText)

/-- `CREATE TYPE` after its keywords. -/
def createType (i : Inner) : Reader String := do
  let n ← i.pathText
  keyword "AS"
  let attributes ← if ← takesSymbol "(" then do
      if ← takesSymbol ")" then pure [] else listUpToBracket i.typeAttribute i.budget
    else pure []
  return "CREATE TYPE " ++ n ++ " AS (" ++ commas attributes ++ ")"

/-- A value that a secret holds. -/
def secretEntry : Reader String := do
  let k ← name
  return k.render ++ " " ++ (← name).render

/-- `CREATE SECRET` after its keywords, which `start` holds. -/
def createSecret (i : Inner) (start : String) : Reader String := do
  let exists_ ← leading ["IF", "NOT", "EXISTS"]
  let (n, place) ← naming
  symbol "("
  keyword "TYPE"
  let type ← name
  let entries ← if ← takesSymbol "," then list i.budget secretEntry else pure []
  symbol ")"
  return start ++ "SECRET " ++ exists_ ++ lead (textOf n) ++
    (match place with
      | some p => "IN " ++ p.render ++ " "
      | none => "") ++
    "( TYPE " ++ commas (type.render :: entries) ++ " )"
where
  /-- The text of a name, if there is one. -/
  textOf (n : Option Name) : String := (n.map Name.render).getD ""
  /-- Where a secret is kept, if that is said. -/
  place : Reader (Option Name) := do
    if ← takes "IN" then nameIfAny else return none
  /-- The name of a secret and where it is kept, as far as they are given before the brackets. -/
  naming : Reader (Option Name × Option Name) := do
    if ← seesSymbol "(" then return (none, none)
    let placed ← sees "IN"
    let first ← if placed then place else nameIfAny
    let second ← if placed ∧ first.isSome then pure first else place
    return (if placed then none else first, second)

/-! ### Roles -/

/-- What a role may be or not be, in their order. -/
def roleSwitches : List (String × String) :=
  [("SUPERUSER", "NOSUPERUSER"), ("CREATEDB", "NOCREATEDB"), ("CREATEROLE", "NOCREATEROLE"),
   ("INHERIT", "NOINHERIT"), ("LOGIN", "NOLOGIN"), ("REPLICATION", "NOREPLICATION"),
   ("BYPASSRLS", "NOBYPASSRLS")]

/-- The place of the first option of a role that only a new role may have. -/
def inRolesPlace : Nat := 13

/-- An option of a role, if one is next: its place in their order, and its text. -/
def roleOption (i : Inner) : Reader (Option (Nat × String)) := do
  match ← takesOneOf (roleSwitches.flatMap fun (yes, no) => [yes, no]) with
  | some k => return some (roleSwitches.findIdx (fun (yes, no) => yes == k || no == k), " " ++ k)
  | none =>
    if ← takesAll ["CONNECTION", "LIMIT"] then
      return some (10, " CONNECTION LIMIT " ++ (← numeral).render)
    if ← takes "PASSWORD" then return some (11, " PASSWORD " ++ (← value).render)
    if ← takesAll ["VALID", "UNTIL"] then return some (12, " VALID UNTIL " ++ (← value).render)
    if ← takesAll ["IN", "ROLE"] then return some (inRolesPlace, " IN ROLE " ++ (← i.bareNames))
    if ← takesAll ["IN", "GROUP"] then return some (14, " IN GROUP " ++ (← i.bareNames))
    if ← takes "ROLE" then return some (15, " ROLE " ++ (← i.bareNames))
    if ← takes "USER" then return some (16, " USER " ++ (← i.bareNames))
    if ← takes "ADMIN" then return some (17, " ADMIN " ++ (← i.bareNames))
    return none

/-- `CREATE ROLE` after its keywords.  No option may come twice. -/
def createRole (i : Inner) : Reader String := do
  let exists_ ← leading ["IF", "NOT", "EXISTS"]
  let names ← i.paths
  let _ ← takes "WITH"
  let options ← many i.roleOption i.budget
  let sorted := options.mergeSort fun a b => a.1 ≤ b.1
  if (sorted.zip (sorted.drop 1)).any fun (a, b) => a.1 == b.1 then failure
  return "CREATE ROLE " ++ exists_ ++ names ++ String.join (sorted.map (·.2))

/-! ### All that can be made -/

/-- How a thing is to be made: the words between `CREATE` and its kind. -/
structure Making where
  replace : String
  alter : String
  range : String
  transient : String
  temporary : String

/-- The words between `CREATE` and the kind of the thing. -/
def making : Reader Making := do
  let replace ← leading ["OR", "REPLACE"]
  let alter ← leading ["OR", "ALTER"]
  let near ← leading ["LOCAL"]
  let wide ← leading ["GLOBAL"]
  let transient ← leading ["TRANSIENT"]
  let temporary ← takesOneOf ["TEMP", "TEMPORARY"]
  return ⟨replace, alter, if wide.isEmpty then near else wide, transient,
    if temporary.isSome then "TEMPORARY " else ""⟩

/-- `CREATE` of a thing that may replace another, if it is one. -/
def createReplacing (i : Inner) (m : Making) : Reader (Option Wording) := do
  let start := "CREATE " ++ m.replace
  if ← takes "TABLE" then
    return some (.ok (← i.createTable (start ++ m.range ++ m.temporary ++ m.transient)))
  if ← takes "MATERIALIZED" then
    keyword "VIEW"
    return some (.ok (← i.createView (start ++ "MATERIALIZED " ++ m.temporary)))
  if ← takes "VIEW" then return some (.ok (← i.createView (start ++ m.temporary)))
  if ← takes "EXTERNAL" then
    keyword "TABLE"
    return some (← i.createExternalTable (start ++ "EXTERNAL "))
  if ← takes "FUNCTION" then return some (.ok (← i.createFunction (start ++ m.temporary)))
  if ← takes "TRIGGER" then return some (.ok (← i.createTrigger start))
  if ← takesAll ["CONSTRAINT", "TRIGGER"] then
    return some (.ok (← i.createTrigger (start ++ "CONSTRAINT ")))
  if ← takes "SECRET" then return some (.ok (← i.createSecret (start ++ m.temporary)))
  return none

/-- `CREATE` of a thing that replaces no other; `statement` reads the statements of a procedure. -/
def createFresh (i : Inner) (statement : Reader Statement) (m : Making) : Reader Wording := do
  if ← takes "EXTENSION" then return .ok (← createExtension)
  if ← takes "INDEX" then return .ok (← i.createIndex "CREATE ")
  if ← takesAll ["UNIQUE", "INDEX"] then return .ok (← i.createIndex "CREATE UNIQUE ")
  if ← takes "VIRTUAL" then
    keyword "TABLE"
    return .ok (← i.createVirtualTable)
  if ← takes "SCHEMA" then
    let exists_ ← leading ["IF", "NOT", "EXISTS"]
    return .ok ("CREATE SCHEMA " ++ exists_ ++ (← i.schemaName))
  if ← takes "DATABASE" then return .ok (← i.createDatabase)
  if ← takes "ROLE" then return .ok (← i.createRole)
  if ← takes "SEQUENCE" then return .ok (← i.createSequence ("CREATE " ++ m.temporary))
  if ← takes "TYPE" then return .ok (← i.createType)
  keyword "PROCEDURE"
  i.createProcedure statement ("CREATE " ++ m.alter)

/-- `CREATE` after its first word. -/
def create (i : Inner) (statement : Reader Statement) : Reader Wording := do
  let m ← making
  match ← i.createReplacing m with
  | some w => return w
  | none => if m.replace.isEmpty then i.createFresh statement m else failure

/-! ### `DROP` -/

/-- `DROP SECRET` after its keywords. -/
def dropSecret : Reader String := do
  let exists_ ← leading ["IF", "EXISTS"]
  let n ← name
  let place ← if ← takes "FROM" then nameIfAny else pure none
  return "DROP SECRET " ++ exists_ ++ n.render ++ match place with
    | some p => " FROM " ++ p.render
    | none => ""

/-- `DROP` after its first word. -/
def drop (i : Inner) : Reader String := do
  match ← takesOneOf ["TABLE", "VIEW", "INDEX", "ROLE", "SCHEMA", "SEQUENCE", "STAGE", "TYPE",
      "FUNCTION", "PROCEDURE", "SECRET", "TRIGGER"] with
  | some "TRIGGER" => i.dropTrigger
  | some "SECRET" => dropSecret
  | some kind =>
    let exists_ ← leading ["IF", "EXISTS"]
    if kind == "FUNCTION" ∨ kind == "PROCEDURE" then
      let functions ← list i.budget i.functionName
      return "DROP " ++ kind ++ " " ++ exists_ ++ commas functions ++ (← dropMode)
    let names ← i.paths
    let cascade ← phrase ["CASCADE"]
    let restrict ← phrase ["RESTRICT"]
    let purge ← phrase ["PURGE"]
    let words := cascade ++ restrict ++ purge
    if ¬cascade.isEmpty ∧ ¬restrict.isEmpty then failure
    if kind == "ROLE" ∧ ¬words.isEmpty then failure
    return "DROP " ++ kind ++ " " ++ exists_ ++ names ++ words
  | none => failure

end SemanticLayer.Sql.Inner
