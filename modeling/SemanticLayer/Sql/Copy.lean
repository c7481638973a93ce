import SemanticLayer.Sql.Listing

/-
# Reading `COPY`

`COPY` moves rows between a table and a file.  Rows that come with the
statement follow it behind a semicolon:

| in the rows | what it is |
| --- | --- |
| a tab or the end of a line | the end of a value |
| `\N` | a value that is null |
| `\.` | the end of the rows |
| a backslash and any other token | nothing |
| any other token | a part of a value, as it is shown |
-/

namespace SemanticLayer.Sql.Inner

open Reader

/-! ### Options -/

/-- A text of one byte, as a literal. -/
def oneByte : Reader String := do
  let s ← literalText isKeywordText
  if s.utf8ByteSize = 1 then return "'" ++ s ++ "'" else failure

/-- A text, as a literal. -/
def copyText : Reader String := do return stringLiteral (← literalText isKeywordText)

/-- A switch, which is on unless it is said to be off. -/
def copySwitch : Reader String := do
  match ← takesOneOf ["TRUE", "FALSE"] with
  | some "FALSE" => return " FALSE"
  | _ => return ""

/-- An option of `COPY` in brackets. -/
def copyOption (i : Inner) : Reader String := do
  let k ← oneOf ["FORMAT", "FREEZE", "DELIMITER", "NULL", "HEADER", "QUOTE", "ESCAPE", "FORCE_QUOTE",
    "FORCE_NOT_NULL", "FORCE_NULL", "ENCODING"]
  if k == "FORMAT" then return k ++ " " ++ (← name).render
  if ["FREEZE", "HEADER"].contains k then return k ++ (← copySwitch)
  if ["DELIMITER", "QUOTE", "ESCAPE"].contains k then return k ++ " " ++ (← oneByte)
  if ["NULL", "ENCODING"].contains k then return k ++ " " ++ (← copyText)
  return k ++ " " ++ (← i.nameList)

/-- An option of a file of values with separators. -/
def separatorOption (i : Inner) : Reader String := do
  match ← oneOf ["HEADER", "QUOTE", "ESCAPE", "FORCE"] with
  | "HEADER" => return "HEADER"
  | "FORCE" =>
    if ← takesAll ["NOT", "NULL"] then return "FORCE NOT NULL " ++ (← i.bareNames)
    keyword "QUOTE"
    return "FORCE QUOTE " ++ (← i.bareNames)
  | k =>
    let _ ← takes "AS"
    return k ++ " " ++ (← oneByte)

/-- An option of `COPY` in its older form. -/
def olderCopyOption (i : Inner) : Reader String := do
  match ← oneOf ["BINARY", "DELIMITER", "NULL", "CSV"] with
  | "DELIMITER" =>
    let _ ← takes "AS"
    return "DELIMITER " ++ (← oneByte)
  | "NULL" =>
    let _ ← takes "AS"
    return "NULL " ++ (← copyText)
  | "CSV" => return "CSV " ++ joinWith " " (← many (attempt i.separatorOption) i.budget)
  | k => return k

/-- The options of `COPY`. -/
def copyOptions (i : Inner) : Reader String := do
  let _ ← takes "WITH"
  let options ← if ← seesSymbol "(" then do
      pure (" (" ++ commas (← bracketed (list i.budget i.copyOption)) ++ ")")
    else pure ""
  return options ++ String.join ((← many (attempt i.olderCopyOption) i.budget).map (" " ++ ·))

/-! ### Rows -/

/-- The values read so far, last first, and the one that is being read. -/
structure CopiedRows where
  done : List (Option String)
  current : String

namespace CopiedRows

/-- Ends the value that is being read. -/
def close (r : CopiedRows) : CopiedRows := ⟨some r.current :: r.done, ""⟩

/-- What a backslash makes of the tokens behind it, unless it ends the rows. -/
def backslash (r : CopiedRows) : Reader (Option CopiedRows) := do
  if ← takesSymbol "." then return none
  let t ← peek
  skip
  match t with
  | some (.word "N" _ _) => return some { r with done := none :: r.done }
  | _ => return some r

/-- Goes on with the next token, blank or not. -/
def step (r : CopiedRows) : Reader (Option CopiedRows) := do
  match ← get with
  | [] => return none
  | t :: rest =>
    set rest
    match t with
    | .blank "\t" | .blank "\n" => return some r.close
    | .symbol "\\" => r.backslash
    | t => return some { r with current := r.current ++ t.show_ }

/-- A value as it is written. -/
def valueText (v : Option String) : String := v.getD "\\N"

/-- The rows as they are written behind a statement; without a value there are none. -/
def text (values : List (Option String)) : String :=
  if values.isEmpty then "" else ";\n" ++ joinWith "\t" (values.map valueText) ++ "\n\\."

end CopiedRows

/-- The rows behind a statement, up to their end; the value that is being read there is dropped. -/
def copiedRows : Reader String := do
  let tokens ← get
  let ended ← repeated CopiedRows.step (tokens.length + 1) ⟨[], ""⟩
  return CopiedRows.text ended.done.reverse

/-! ### The statement -/

/-- Where rows come from or go to, and whether they come with the statement. -/
def copyTarget : Reader (String × Bool) := do
  match ← takesOneOf ["STDIN", "STDOUT", "PROGRAM"] with
  | some "PROGRAM" => return ("PROGRAM " ++ (← copyText), false)
  | some k => return (k, k == "STDIN")
  | none => return (← copyText, false)

/-- `COPY` after its first word. -/
def copy (i : Inner) : Reader String := do
  let isQuery ← seesSymbol "("
  let origin ← if isQuery then do pure ("(" ++ (← i.subquery).render ++ ")") else do
    let n ← i.pathText
    pure (n ++ (← i.namesBehind))
  let direction ← oneOf ["TO", "FROM"]
  if direction == "FROM" ∧ isQuery then failure
  let (target, rowsFollow) ← copyTarget
  let options ← i.copyOptions
  let rows ← if rowsFollow then do
      symbol ";"
      copiedRows
    else pure ""
  return "COPY " ++ origin ++ " " ++ direction ++ " " ++ target ++ options ++ rows

end SemanticLayer.Sql.Inner
