import SemanticLayer.Sql.Listing

/-
# Reading definitions of what the database runs by itself

Functions, procedures and triggers.  These statements are kept as their
canonical text, in which the parts of a function have a fixed order.
-/

namespace SemanticLayer.Sql.Inner

open Reader

/-! ### Functions -/

/-- The mode of a parameter, with a blank behind it. -/
def parameterMode : Reader String := do return lead ((← takesOneOf ["IN", "OUT", "INOUT"]).getD "")

/-- A parameter of a function: a mode, a name, a type and a default.  A type of the database's own
that comes first is taken for the name. -/
def parameter (i : Inner) : Reader String := do
  let mode ← parameterMode
  let type ← match ← TypeName.read i.budget with
    | .custom n _ => do
      pure (renderPath (n.take 1) ++ " " ++ (← TypeName.read i.budget).text)
    | t => pure t.text
  let hasDefault ← if ← takes "DEFAULT" then pure true else takesSymbol "="
  let default_ ← if hasDefault then do pure (" = " ++ (← i.wholeText)) else pure ""
  return mode ++ type ++ default_

/-- Parameters in brackets, which are left out when there are none. -/
def parameters (i : Inner) : Reader String := do
  match ← bracketed (listOrNone i.budget i.parameter) with
  | [] => return ""
  | ps => return "(" ++ commas ps ++ ")"

/-- A function by its name, and by its parameters if it has any. -/
def functionName (i : Inner) : Reader String := do
  let n ← i.pathText
  return n ++ (← if ← seesSymbol "(" then i.parameters else pure "")

/-- What is said about a function, each part with a blank before it or empty. -/
structure FunctionParts where
  language : String
  behavior : String
  onNull : String
  parallel : String
  body : String

namespace FunctionParts

/-- The parts in their order. -/
def text (p : FunctionParts) : String :=
  p.language ++ p.behavior ++ p.onNull ++ p.parallel ++ p.body

end FunctionParts

/-- The value of a part that has not been read before. -/
def firstTime (before now : String) : Reader String :=
  if before.isEmpty then return now else failure

/-- The text of a function. -/
def functionText : Reader String := do
  match ← peek with
  | some (.string (.dollar tag) v) =>
    skip
    return spelling (.dollar tag) v
  | _ => return stringLiteral (← literalText isKeywordText)

/-- One more part of a function, if one is next. -/
def functionPart (i : Inner) (p : FunctionParts) : Reader (Option FunctionParts) := do
  if ← takes "AS" then
    return some { p with body := ← firstTime p.body (" AS " ++ (← functionText)) }
  if ← takes "LANGUAGE" then
    return some { p with language := ← firstTime p.language (" LANGUAGE " ++ (← name).render) }
  let behavior ← firstPhrase [["IMMUTABLE"], ["STABLE"], ["VOLATILE"]]
  if ¬behavior.isEmpty then return some { p with behavior := ← firstTime p.behavior behavior }
  let onNull ← firstPhrase [["CALLED", "ON", "NULL", "INPUT"],
    ["RETURNS", "NULL", "ON", "NULL", "INPUT"], ["STRICT"]]
  if ¬onNull.isEmpty then return some { p with onNull := ← firstTime p.onNull onNull }
  if ← takes "PARALLEL" then
    let k ← oneOf ["UNSAFE", "RESTRICTED", "SAFE"]
    return some { p with parallel := ← firstTime p.parallel (" PARALLEL " ++ k) }
  if ← takes "RETURN" then
    return some { p with body := ← firstTime p.body (" RETURN " ++ (← i.wholeText)) }
  return none

/-- `CREATE FUNCTION` after its keywords, which `start` holds. -/
def createFunction (i : Inner) (start : String) : Reader String := do
  let n ← i.pathText
  let ps ← i.parameters
  let result ← if ← takes "RETURNS" then do pure (" RETURNS " ++ (← TypeName.read i.budget).text)
    else pure ""
  let parts ← repeated i.functionPart i.budget ⟨"", "", "", "", ""⟩
  return start ++ "FUNCTION " ++ n ++ ps ++ result ++ parts.text

/-! ### Procedures -/

/-- Parameters of a procedure after their opening bracket: commas may stand anywhere between them. -/
def procedureParameters (i : Inner) : Reader (List String) := do
  return (← listUpToBracket parameterIfAny i.budget).filterMap id
where
  /-- A parameter, if there is a word. -/
  parameterIfAny : Reader (Option String) := do
    if ← seesWord then
      let n ← name
      return some (n.render ++ " " ++ (← TypeName.read i.budget).text)
    return none

/-- `CREATE PROCEDURE` after its keywords, which `start` holds. -/
def createProcedure (i : Inner) (statement : Reader Statement) (start : String) :
    Reader Wording := do
  let n ← i.pathText
  let ps ← if ← takesSymbol "(" then do
      if ← takesSymbol ")" then pure [] else i.procedureParameters
    else pure []
  keywords ["AS", "BEGIN"]
  let body ← statements statement i.budget true
  keyword "END"
  let ps := if ps.isEmpty then "" else " (" ++ commas ps ++ ")"
  return do
    let texts ← body.mapM Statement.wording
    return start ++ "PROCEDURE " ++ n ++ ps ++ " AS BEGIN " ++ joinWith "; " texts ++ " END"

/-! ### Triggers -/

/-- What a trigger waits for. -/
def triggerEvent (i : Inner) : Reader String := do
  let k ← oneOf ["INSERT", "UPDATE", "DELETE", "TRUNCATE"]
  if k == "UPDATE" then
    if ← takes "OF" then return "UPDATE OF " ++ (← i.bareNames)
  return k

/-- The events of a trigger, with `OR` between them. -/
def triggerEvents (i : Inner) : Nat → Reader (List String)
  | 0 => failure
  | budget + 1 => do
    let e ← i.triggerEvent
    if ← takes "OR" then return e :: (← i.triggerEvents budget) else return [e]

/-- A name for the rows before or after a change; a mark without `TABLE` behind it ends the names. -/
def triggerRows (i : Inner) : Reader (Option String) := do
  match ← takesOneOf ["OLD", "NEW"] with
  | some k =>
    if ← takes "TABLE" then
      let as_ ← phrase ["AS"]
      return some (" " ++ k ++ " TABLE" ++ as_ ++ " " ++ (← i.pathText))
    return none
  | none => return none

/-- When a constraint is checked and whether it is: at most one word on each, in any order. -/
def constraintTiming : Reader String := do
  let (deferrable, initially, enforced) ← repeated step 3 ("", "", "")
  return deferrable ++ initially ++ enforced
where
  /-- One more word. -/
  step (found : String × String × String) : Reader (Option (String × String × String)) := do
    let (deferrable, initially, enforced) := found
    let d ← if deferrable.isEmpty then firstPhrase [["NOT", "DEFERRABLE"], ["DEFERRABLE"]] else pure ""
    if ¬d.isEmpty then return some (d, initially, enforced)
    if initially.isEmpty then
      if ← takes "INITIALLY" then
        return some (deferrable, " INITIALLY " ++ (← oneOf ["DEFERRED", "IMMEDIATE"]), enforced)
    let e ← if enforced.isEmpty then firstPhrase [["ENFORCED"], ["NOT", "ENFORCED"]] else pure ""
    if ¬e.isEmpty then return some (deferrable, initially, e)
    return none

/-- `CREATE TRIGGER` after its keywords, which `start` holds. -/
def createTrigger (i : Inner) (start : String) : Reader String := do
  let n ← i.pathText
  let period ← firstPhrase [["BEFORE"], ["AFTER"], ["INSTEAD", "OF"]]
  if period.isEmpty then failure
  let events ← i.triggerEvents i.budget
  keyword "ON"
  let t ← i.pathText
  let origin ← if ← takes "FROM" then pathIfAny i.budget else pure none
  let origin := match origin with
    | some p => " FROM " ++ renderPath p
    | none => ""
  let timing ← constraintTiming
  let rows ← if ← takes "REFERENCING" then many i.triggerRows i.budget else pure []
  let referencing := if rows.isEmpty then "" else " REFERENCING" ++ String.join rows
  keyword "FOR"
  let each_ ← phrase ["EACH"]
  let object ← oneOf ["ROW", "STATEMENT"]
  let condition ← clause ["WHEN"] i.wholeText
  keyword "EXECUTE"
  let kind ← oneOf ["FUNCTION", "PROCEDURE"]
  return start ++ "TRIGGER " ++ n ++ period ++ " " ++ joinWith " OR " events ++ " ON " ++ t ++
    origin ++ timing ++ referencing ++ " FOR" ++ each_ ++ " " ++ object ++ condition ++
    " EXECUTE " ++ kind ++ " " ++ (← i.functionName)

/-- `DROP TRIGGER` after its keywords. -/
def dropTrigger (i : Inner) : Reader String := do
  let exists_ ← leading ["IF", "EXISTS"]
  let n ← i.pathText
  keyword "ON"
  let t ← i.pathText
  return "DROP TRIGGER " ++ exists_ ++ n ++ " ON " ++ t ++ (← dropMode)

end SemanticLayer.Sql.Inner
