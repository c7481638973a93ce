import SemanticLayer.Sql.Alteration
import SemanticLayer.Sql.Copy
import SemanticLayer.Sql.Session

/-
# Reading statements by their first word

Statements about rights, cursors, plans and the tables themselves, kept as
canonical text, and the first words of all statements but queries.
-/

namespace SemanticLayer.Sql.Inner

open Reader

/-! ### Rights -/

/-- A right. -/
def privilege (i : Inner) : Reader String := do
  let k ← oneOf ["CONNECT", "CREATE", "DELETE", "EXECUTE", "INSERT", "REFERENCES", "SELECT",
    "TEMPORARY", "TRIGGER", "TRUNCATE", "UPDATE", "USAGE"]
  if ["INSERT", "REFERENCES", "SELECT", "UPDATE"].contains k then return k ++ (← i.namesBehind)
  return k

/-- Rights on things. -/
def privileges (i : Inner) : Reader String := do
  let what ← if ← takes "ALL" then do pure ("ALL" ++ (← phrase ["PRIVILEGES"])) else do
    pure (commas (← list i.budget i.privilege))
  keyword "ON"
  let kind ← firstPhrase [["ALL", "TABLES", "IN", "SCHEMA"], ["ALL", "SEQUENCES", "IN", "SCHEMA"],
    ["SEQUENCE"], ["SCHEMA"], ["TABLE"]]
  return what ++ " ON" ++ (if kind == " TABLE" then "" else kind) ++ " " ++ (← i.paths)

/-- Who gives rights, if that is said; who is announced has to be named. -/
def grantor : Reader String := clause ["GRANTED", "BY"] do
  match ← nameIfAny with
  | some n => return n.render
  | none => breaks .noGrantor

/-- `GRANT` after its first word. -/
def grant (i : Inner) : Reader String := do
  let what ← i.privileges
  keyword "TO"
  let who ← i.bareNames
  let option_ ← phrase ["WITH", "GRANT", "OPTION"]
  return "GRANT " ++ what ++ " TO " ++ who ++ option_ ++ (← grantor)

/-- `REVOKE` after its first word. -/
def revoke (i : Inner) : Reader String := do
  let what ← i.privileges
  keyword "FROM"
  let who ← i.bareNames
  let by_ ← grantor
  let cascade ← takes "CASCADE"
  let restrict ← takes "RESTRICT"
  if cascade ∧ restrict then failure
  return "REVOKE " ++ what ++ " FROM " ++ who ++ by_ ++ if cascade then " CASCADE" else " RESTRICT"

/-! ### Cursors and prepared statements -/

/-- `DECLARE` after its first word. -/
def declare (i : Inner) : Reader String := do
  let n ← name
  let binary ← phrase ["BINARY"]
  let sensitive ← firstPhrase [["INSENSITIVE"], ["ASENSITIVE"]]
  let scroll ← firstPhrase [["SCROLL"], ["NO", "SCROLL"]]
  keyword "CURSOR"
  let hold ← firstPhrase [["WITH", "HOLD"], ["WITHOUT", "HOLD"]]
  keyword "FOR"
  return "DECLARE " ++ n.render ++ binary ++ sensitive ++ scroll ++ " CURSOR" ++ hold ++ " FOR " ++
    (← i.query).render

/-- Where to move a cursor. -/
def fetchDirection : Reader String := do
  match ← takesOneOf ["NEXT", "PRIOR", "FIRST", "LAST", "ABSOLUTE", "RELATIVE", "FORWARD",
      "BACKWARD", "ALL"] with
  | some k =>
    if k == "ABSOLUTE" ∨ k == "RELATIVE" then return k ++ " " ++ (← numeral).render
    if k == "FORWARD" ∨ k == "BACKWARD" then
      if ← takes "ALL" then return k ++ " ALL"
      return k ++ " " ++ (← numeral).render
    return k
  | none => return (← numeral).render

/-- `FETCH` after its first word. -/
def fetchStatement (i : Inner) : Reader String := do
  let direction ← fetchDirection
  let _ ← oneOf ["FROM", "IN"]
  let n ← name
  return "FETCH " ++ direction ++ " IN " ++ n.render ++ (← clause ["INTO"] i.pathText)

/-- `EXECUTE` after its first word. -/
def execute (i : Inner) : Reader String := do
  let n ← name
  let args ← if ← seesSymbol "(" then i.rowText else pure ""
  return "EXECUTE " ++ n.render ++ args ++ (← clause ["USING"] do return exprTexts (← i.exprs))

/-- `PREPARE` after its first word. -/
def prepare (i : Inner) (statement : Reader Statement) : Reader Wording := do
  let n ← name
  let types ← if ← seesSymbol "(" then do
      let ts ← bracketed (list i.budget (TypeName.read i.budget))
      pure ("(" ++ commas (ts.map TypeName.text) ++ ") ")
    else pure ""
  keyword "AS"
  return (← statement).wording.map fun text => "PREPARE " ++ n.render ++ " " ++ types ++ "AS " ++ text

/-! ### Plans -/

/-- The words between `EXPLAIN` and its statement. -/
def planWords : Reader String := do
  let analyze ← leading ["ANALYZE"]
  let verbose ← leading ["VERBOSE"]
  let format ← clause ["FORMAT"] (oneOf ["TEXT", "GRAPHVIZ", "JSON"])
  return analyze ++ verbose ++ if format.isEmpty then "" else
    String.ofList (format.toList.drop 1) ++ " "

/-- `EXPLAIN` and its like after the first word: the plan of a statement, or a table. -/
def explain (i : Inner) (start : String) (statement : Reader Statement) : Reader Wording := do
  let words ← planWords
  let explains ← seesOneOf ["EXPLAIN", "DESCRIBE", "DESC"]
  match ← attempt statement with
  | some s =>
    if explains then failure
    return s.wording.map fun text => start ++ " " ++ words ++ text
  | none =>
    let format ← takesOneOf ["EXTENDED", "FORMATTED"]
    return .ok (start ++ " " ++ lead (format.getD "") ++ (← i.pathText))

/-! ### Tables -/

/-- `COMMENT` after its first word. -/
def comment (i : Inner) : Reader String := do
  let exists_ ← leading ["IF", "EXISTS"]
  keyword "ON"
  let kind ← oneOf ["COLUMN", "TABLE"]
  let n ← i.pathText
  keyword "IS"
  let text ← if ← takes "NULL" then pure "NULL" else rawText
  return "COMMENT " ++ exists_ ++ "ON " ++ kind ++ " " ++ n ++ " IS " ++ text

/-- What to find out about a table, in its order, each part empty if it is not asked for. -/
structure Survey where
  partition : String
  statistics : String
  noScan : String
  metadata : String
  columns : String

namespace Survey

/-- The parts in their order. -/
def text (s : Survey) : String := s.partition ++ s.statistics ++ s.noScan ++ s.metadata ++ s.columns

end Survey

/-- One more part of a survey, if one is next. -/
def surveyPart (i : Inner) (s : Survey) : Reader (Option Survey) := do
  if ← takes "PARTITION" then return some { s with partition := " " ++ (← i.partition) }
  if ← takes "NOSCAN" then return some { s with noScan := " NOSCAN" }
  if ← takes "FOR" then
    keyword "COLUMNS"
    let names ← attempt i.bareNames
    return some { s with columns := " FOR COLUMNS" ++ trail (names.getD "") }
  if ← takes "CACHE" then
    keyword "METADATA"
    return some { s with metadata := " CACHE METADATA" }
  if ← takes "COMPUTE" then
    keyword "STATISTICS"
    return some { s with statistics := " COMPUTE STATISTICS" }
  return none

/-- `ANALYZE` after its first word. -/
def analyze (i : Inner) : Reader String := do
  keyword "TABLE"
  let n ← i.pathText
  return "ANALYZE TABLE " ++ n ++ (← repeated i.surveyPart i.budget ⟨"", "", "", "", ""⟩).text

/-- `MSCK` after its first word. -/
def checkPartitions (i : Inner) : Reader String := do
  let repair ← leading ["REPAIR"]
  keyword "TABLE"
  let n ← i.pathText
  let partitions ← firstPhrase [["ADD", "PARTITIONS"], ["DROP", "PARTITIONS"], ["SYNC", "PARTITIONS"]]
  if partitions.isEmpty then
    let _ ← takes "PARTITIONS"
  return "MSCK " ++ repair ++ "TABLE " ++ n ++ partitions

/-- `CACHE` after its first word.  Nothing may follow the table but options and a query. -/
def cacheTable (i : Inner) : Reader String := do
  let flag ← if ← sees "TABLE" then pure "" else do pure ((← i.pathText) ++ " ")
  keyword "TABLE"
  let n ← i.pathText
  let options ← if ← takes "OPTIONS" then do pure (" OPTIONS" ++ (← i.optionList)) else pure ""
  let start := "CACHE " ++ flag ++ "TABLE " ++ n ++ options
  if (← peek).isNone then return start
  let as_ ← phrase ["AS"]
  if as_.isEmpty ∧ (← seesSymbol "(") then failure
  return start ++ as_ ++ " " ++ (← i.query).render

/-- `UNCACHE` after its first word. -/
def uncacheTable (i : Inner) : Reader String := do
  keyword "TABLE"
  let exists_ ← leading ["IF", "EXISTS"]
  return "UNCACHE TABLE " ++ exists_ ++ (← i.pathText)

/-- `UNLOAD` after its first word. -/
def unload (i : Inner) : Reader String := do
  let q ← i.subquery
  keyword "TO"
  let n ← name
  return "UNLOAD(" ++ q.render ++ ") TO " ++ n.render ++ (← i.withOptions)

/-- `ATTACH` after its first word. -/
def attach (i : Inner) : Reader String := do
  let database ← leading ["DATABASE"]
  let file ← i.wholeText
  keyword "AS"
  return "ATTACH " ++ database ++ file ++ " AS " ++ (← name).render

/-! ### Calls and settings -/

/-- `CALL` after its first word. -/
def callStatement (i : Inner) : Reader String := do
  let n ← path i.budget
  if ← seesSymbol "(" then return "CALL " ++ (← i.call n).render
  return "CALL " ++ renderPath n

/-- A value of a setting: a text, a number, or a place that is filled with one. -/
def settingValue : Reader String := do
  match ← peek with
  | some (.text _) | some (.word _ (some _) _) => return (← value).render
  | _ => return (← numeral).render

/-- `PRAGMA` after its first word. -/
def pragma (i : Inner) : Reader String := do
  let n ← i.pathText
  if ← seesSymbol "(" then return "PRAGMA " ++ n ++ "(" ++ (← bracketed settingValue) ++ ")"
  if ← takesSymbol "=" then return "PRAGMA " ++ n ++ " = " ++ (← settingValue)
  return "PRAGMA " ++ n

/-- `KILL` after its first word. -/
def kill : Reader String := do
  let kind ← takesOneOf ["CONNECTION", "QUERY"]
  return "KILL " ++ lead (kind.getD "") ++ (← digits)

/-- `DISCARD` after its first word. -/
def discard : Reader String := do
  let what ← oneOf ["ALL", "PLANS", "SEQUENCES", "TEMP", "TEMPORARY"]
  return "DISCARD " ++ if what == "TEMPORARY" then "TEMP" else what

/-! ### All of them -/

/-- A statement that always has a text, by its first word, after that word. -/
def plainCommand (i : Inner) : String → Reader String
  | "INSERT" => i.insert
  | "UPDATE" => i.update
  | "DELETE" => i.delete
  | "TRUNCATE" => i.truncate
  | "MERGE" => i.merge
  | "COPY" => i.copy
  | "DROP" => i.drop
  | "ALTER" => i.alter
  | "START" => do
    keyword "TRANSACTION"
    return "START TRANSACTION" ++ (← i.modesText)
  | "BEGIN" => do
    let _ ← takesOneOf ["TRANSACTION", "WORK"]
    return "BEGIN TRANSACTION" ++ (← i.modesText)
  | "COMMIT" | "END" => do return "COMMIT" ++ (← chain)
  | "ROLLBACK" => rollback
  | "SAVEPOINT" => do return "SAVEPOINT " ++ (← name).render
  | "RELEASE" => do
    let _ ← takes "SAVEPOINT"
    return "RELEASE SAVEPOINT " ++ (← name).render
  | "SET" => i.set
  | "SHOW" => i.show_
  | "USE" => do return "USE " ++ (← i.pathText)
  | "GRANT" => i.grant
  | "REVOKE" => i.revoke
  | "DECLARE" => i.declare
  | "FETCH" => i.fetchStatement
  | "CLOSE" => do
    if ← takes "ALL" then return "CLOSE ALL" else return "CLOSE " ++ (← name).render
  | "EXECUTE" => i.execute
  | "DEALLOCATE" => do
    let prepared ← leading ["PREPARE"]
    return "DEALLOCATE " ++ prepared ++ (← name).render
  | "DISCARD" => discard
  | "CALL" => i.callStatement
  | "ASSERT" => do
    let condition ← i.wholeText
    return "ASSERT " ++ condition ++ (← clause ["AS"] i.wholeText)
  | "KILL" => kill
  | "PRAGMA" => i.pragma
  | "ATTACH" => i.attach
  | "ANALYZE" => i.analyze
  | "MSCK" => i.checkPartitions
  | "CACHE" => i.cacheTable
  | "UNCACHE" => i.uncacheTable
  | "UNLOAD" => i.unload
  | "COMMENT" => i.comment
  | _ => failure

/-- A statement by its first word, after that word; `statement` reads statements in statements. -/
def command (i : Inner) (statement : Reader Statement) (k : String) : Reader Wording :=
  if k == "CREATE" then i.create statement
  else if k == "PREPARE" then i.prepare statement
  else if ["EXPLAIN", "DESCRIBE", "DESC"].contains k then i.explain k statement
  else Except.ok <$> i.plainCommand k

end SemanticLayer.Sql.Inner
