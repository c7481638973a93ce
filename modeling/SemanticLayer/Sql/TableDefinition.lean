import SemanticLayer.Sql.Routine

/-
# Reading definitions of tables

`CREATE TABLE` and its columns, constraints and settings.  The settings are
read in one order and written in another:

| read | written |
| --- | --- |
| cluster, model table, copied table, columns | cluster, columns |
| `WITHOUT ROWID`, `PARTITIONED BY` | `WITHOUT ROWID`, model table, copied table, `PARTITIONED BY` |
| row format, file format, location and serializer's properties in any order | row format, file format, properties, location |
| `WITH`, `TBLPROPERTIES` | `TBLPROPERTIES`, `WITH` |
| engine, counter, order, partition | engine, comment, counter, order, partition |
| character set, collation, `ON COMMIT`, `STRICT`, comment | character set, collation, `ON COMMIT`, `STRICT` |
-/

namespace SemanticLayer.Sql.Inner

open Reader

/-! ### Columns -/

/-- What happens to a row when the row that it refers to goes away. -/
def referenceAction : Reader String := do
  let a ← firstPhrase [["RESTRICT"], ["CASCADE"], ["SET", "NULL"], ["NO", "ACTION"],
    ["SET", "DEFAULT"]]
  if a.isEmpty then failure else return a

/-- The actions of a reference: at most one of each kind, in either order. -/
def referenceActions : Reader String := do
  let (onDelete, onUpdate) ← repeated step 2 ("", "")
  return onDelete ++ onUpdate
where
  /-- One more action. -/
  step (found : String × String) : Reader (Option (String × String)) := do
    if ← if found.1.isEmpty then takesAll ["ON", "DELETE"] else pure false then
      return some (" ON DELETE" ++ (← referenceAction), found.2)
    if ← if found.2.isEmpty then takesAll ["ON", "UPDATE"] else pure false then
      return some (found.1, " ON UPDATE" ++ (← referenceAction))
    return none

/-- A condition in brackets. -/
def checkText (i : Inner) : Reader String := do
  return "CHECK (" ++ (← bracketed i.wholeText) ++ ")"

/-- A bound of a sequence, if one is next. -/
def sequenceBound (k : String) : Reader String := do
  if ← takes k then return " " ++ k ++ " " ++ (← numeral).render
  phrase ["NO", k]

/-- The options of a sequence, in their order. -/
def sequenceOptions : Reader String := do
  let increment ← if ← takes "INCREMENT" then do
      let by_ ← phrase ["BY"]
      pure (" INCREMENT" ++ by_ ++ " " ++ (← numeral).render)
    else pure ""
  let least ← sequenceBound "MINVALUE"
  let greatest ← sequenceBound "MAXVALUE"
  let start ← if ← takes "START" then do
      let with_ ← phrase ["WITH"]
      pure (" START" ++ with_ ++ " " ++ (← numeral).render)
    else pure ""
  let cache ← clause ["CACHE"] (Expr.render <$> numeral)
  return increment ++ least ++ greatest ++ start ++ cache ++
    (← firstPhrase [["NO", "CYCLE"], ["CYCLE"]])

/-- How a column gets its values, after `GENERATED`, if that is said. -/
def generated (i : Inner) : Reader (Option String) := do
  let identity ← firstPhrase [["ALWAYS", "AS", "IDENTITY"], ["BY", "DEFAULT", "AS", "IDENTITY"]]
  if ¬identity.isEmpty then
    let options ← if ← seesSymbol "(" then bracketed sequenceOptions else pure ""
    return some ("GENERATED" ++ identity ++ if options.isEmpty then "" else " (" ++ options ++ " )")
  if ← takesAll ["ALWAYS", "AS"] then
    if ← seesSymbol "(" then
      let e ← bracketed i.wholeText
      keyword "STORED"
      return some ("GENERATED ALWAYS AS (" ++ e ++ ") STORED")
  return none

/-- An option of a column, if one is next.  Marks of counters say nothing here: they are taken, and
so is `GENERATED` with nothing behind it. -/
def columnOption (i : Inner) : Reader (Option String) := do
  if ← takesAll ["CHARACTER", "SET"] then return some ("CHARACTER SET " ++ (← i.pathText))
  if ← takesAll ["NOT", "NULL"] then return some "NOT NULL"
  if ← takes "COMMENT" then return some ("COMMENT " ++ stringLiteral (← plainText))
  if ← takes "NULL" then return some "NULL"
  if ← takes "DEFAULT" then return some ("DEFAULT " ++ (← i.wholeText))
  if ← takesAll ["PRIMARY", "KEY"] then return some ("PRIMARY KEY" ++ (← constraintTiming))
  if ← takes "UNIQUE" then return some ("UNIQUE" ++ (← constraintTiming))
  if ← takes "REFERENCES" then
    let t ← i.pathText
    let columns ← i.namesBehind
    let actions ← referenceActions
    return some ("REFERENCES " ++ t ++ columns ++ actions ++ (← constraintTiming))
  if ← takes "CHECK" then return some (← i.checkText)
  let _ ← takes "AUTO_INCREMENT"
  let _ ← takes "AUTOINCREMENT"
  let _ ← takesAll ["ON", "UPDATE"]
  if ← takes "GENERATED" then return ← i.generated
  let _ ← takes "AS"
  return none

/-- An option of a column with an optional name before it. -/
def namedOption (i : Inner) : Reader (Option String) := do
  if ← takes "CONSTRAINT" then
    let n ← name
    match ← i.columnOption with
    | some o => return some ("CONSTRAINT " ++ n.render ++ " " ++ o)
    | none => failure
  i.columnOption

/-- The definition of a column. -/
def columnDef (i : Inner) : Reader String := do
  let n ← name
  let t ← TypeName.read i.budget
  let collation ← clause ["COLLATE"] i.pathText
  let options ← many i.namedOption i.budget
  return n.render ++ " " ++ t.text ++ collation ++ String.join (options.map trail)

/-! ### Constraints -/

/-- How an index is built, if that is said. -/
def indexMethod : Reader String := clause ["USING"] (oneOf ["BTREE", "HASH"])

/-- An option of an index, if one is next. -/
def indexOption : Reader (Option String) := do
  let method ← indexMethod
  if ¬method.isEmpty then return some method
  if ← takes "COMMENT" then return some (" COMMENT " ++ (← rawText))
  return none

/-- The index of a constraint: an optional name, its columns and its options. -/
def constraintIndex (i : Inner) : Reader String := do
  let n ← attempt name
  let method ← indexMethod
  let columns ← i.nameList
  let options ← many indexOption i.budget
  let timing ← constraintTiming
  return trail ((n.map Name.render).getD "") ++ method ++ " " ++ columns ++ String.join options ++
    timing

/-- A reference of columns to those of another table. -/
def foreignKey (i : Inner) : Reader String := do
  let columns ← i.nameList
  keyword "REFERENCES"
  let t ← i.pathText
  let referred ← i.nameList
  let actions ← referenceActions
  return columns ++ " REFERENCES " ++ t ++ referred ++ actions ++ (← constraintTiming)

/-- A constraint of a table, if one is next. -/
def tableConstraint (i : Inner) : Reader (Option String) := do
  let n ← if ← takes "CONSTRAINT" then do pure ("CONSTRAINT " ++ (← name).render ++ " ") else pure ""
  match ← takesOneOf ["UNIQUE", "PRIMARY", "FOREIGN", "CHECK"] with
  | some "UNIQUE" =>
    if ← seesOneOf ["KEY", "INDEX"] then failure
    return some (n ++ "UNIQUE" ++ (← i.constraintIndex))
  | some "PRIMARY" =>
    keyword "KEY"
    return some (n ++ "PRIMARY KEY" ++ (← i.constraintIndex))
  | some "FOREIGN" =>
    keyword "KEY"
    return some (n ++ "FOREIGN KEY " ++ (← i.foreignKey))
  | some _ => return some (n ++ (← i.checkText))
  | none => if n.isEmpty then return none else failure

/-- A column or a constraint of a table; columns come before constraints in the canonical text. -/
def tableElement (i : Inner) : Reader (Bool × String) := do
  match ← i.tableConstraint with
  | some c => return (true, c)
  | none => if ← seesWord then return (false, ← i.columnDef) else failure

/-- The columns and constraints of a table, if they are given. -/
def tableElements (i : Inner) : Reader (List String) := do
  if ← seesSymbol "(" then
    let es ← bracketed (listOrNone i.budget i.tableElement)
    return ((es.filter fun e => !e.1) ++ es.filter (·.1)).map (·.2)
  return []

/-! ### How the rows are kept -/

/-- What ends a part of a row, each with the words before it. -/
def rowEnds : List (String × List String) :=
  [("FIELDS", ["TERMINATED", "BY"]), ("COLLECTION", ["ITEMS", "TERMINATED", "BY"]),
   ("MAP", ["KEYS", "TERMINATED", "BY"]), ("LINES", ["TERMINATED", "BY"]),
   ("NULL", ["DEFINED", "AS"])]

/-- One more mark in the rows, if one is next; a word without its phrase ends them. -/
def rowMark : Reader (Option String) := do
  match ← takesOneOf (rowEnds.map (·.1)) with
  | some k =>
    let words := (rowEnds.lookup k).getD []
    if ← takesAll words then
      let mark ← name
      let escape ← if k == "FIELDS" then clause ["ESCAPED", "BY"] (Name.render <$> name) else pure ""
      return some (" " ++ k ++ " " ++ joinWith " " words ++ " " ++ mark.render ++ escape)
    return none
  | none => return none

/-- How the rows are written, after `ROW`. -/
def rowFormat (i : Inner) : Reader String := do
  keyword "FORMAT"
  match ← takesOneOf ["SERDE", "DELIMITED"] with
  | some "SERDE" => return " ROW FORMAT SERDE " ++ (← rawText)
  | _ => return " ROW FORMAT DELIMITED" ++ String.join (← many rowMark i.budget)

/-- How and where the rows of a table are kept, each part with a blank before it or empty. -/
structure Storage where
  rows : String
  /-- The readers and writers of files, if no format is named. -/
  handlers : String
  format : String
  properties : String
  location : String

namespace Storage

/-- The parts in their order. -/
def text (s : Storage) : String := s.rows ++ s.handlers ++ s.format ++ s.properties ++ s.location

/-- The parts in their order for a table that the database only reads, which has to have a location. -/
def externalText (s : Storage) : Wording :=
  if s.location.isEmpty then .error .noLocation
  else .ok (s.rows ++ s.handlers ++ s.properties ++ s.format ++ s.location)

end Storage

/-- How and where the rows of a table are kept. -/
def storage (i : Inner) : Reader Storage := repeated step i.budget ⟨"", "", "", "", ""⟩
where
  /-- One more part; a part that is given again replaces the first. -/
  step (s : Storage) : Reader (Option Storage) := do
    if ← takes "ROW" then return some { s with rows := ← i.rowFormat }
    if ← takes "STORED" then
      keyword "AS"
      if ← takes "INPUTFORMAT" then
        let reader ← i.wholeText
        keyword "OUTPUTFORMAT"
        let text := " STORED AS INPUTFORMAT " ++ reader ++ " OUTPUTFORMAT " ++ (← i.wholeText)
        return some { s with handlers := text, format := "" }
      return some { s with handlers := "", format := " STORED AS " ++ (← fileFormat) }
    if ← takes "LOCATION" then return some { s with location := " LOCATION " ++ (← rawText) }
    let properties ← i.optionsAfter ["WITH", "SERDEPROPERTIES"]
    if properties.isEmpty then return none
    return some { s with properties := properties }

/-- The columns by whose values the rows are kept apart. -/
def partitionedBy (i : Inner) : Reader String := do
  if ← takesAll ["PARTITIONED", "BY"] then
    return " PARTITIONED BY (" ++ commas (← bracketed (list i.budget i.columnDef)) ++ ")"
  return ""

/-! ### Settings -/

/-- A word after an equals sign. -/
def settingWord : Reader String := do
  symbol "="
  match ← next with
  | .word v _ _ => return v
  | _ => failure

/-- What keeps the rows, if that is said. -/
def engine (i : Inner) : Reader String := do
  if ← takes "ENGINE" then
    let n ← settingWord
    let settings ← if ← seesSymbol "(" then i.nameList else pure ""
    return " ENGINE=" ++ n ++ settings
  return ""

/-- The first number of a counter, if it is given. -/
def counter : Reader String := clause ["AUTO_INCREMENT"] do
  let _ ← takesSymbol "="
  digitsOf 32

/-- The order of the rows, if it is given. -/
def rowOrder (i : Inner) : Reader String := clause ["ORDER", "BY"] do
  if ← seesSymbol "(" then return "(" ++ exprTexts (← bracketed (listOrNone i.budget i.whole)) ++ ")"
  i.wholeText

/-- A setting of a table by some words, if it is given. -/
def wordSetting (keywords : List String) : Reader String := do
  if ← takesAll keywords then return " " ++ joinWith " " keywords ++ "=" ++ (← settingWord)
  return ""

/-- What happens to the rows of a temporary table at the end of a transaction. -/
def onCommit : Reader String := do
  if ← takesAll ["ON", "COMMIT"] then
    let what ← firstPhrase [["DELETE", "ROWS"], ["PRESERVE", "ROWS"], ["DROP"]]
    if what.isEmpty then failure
    return " ON COMMIT" ++ what
  return ""

/-- What is said about a table, if anything. -/
def tableComment : Reader String := clause ["COMMENT"] do
  let _ ← takesSymbol "="
  return "'" ++ (← plainText) ++ "'"

/-- A table that another one is made after, behind some words. -/
def modelTable (word : String) : Option (List Name) → String
  | some n => " " ++ word ++ " " ++ renderPath n
  | none => ""

/-- `CREATE TABLE` after its keywords, which `start` holds. -/
def createTable (i : Inner) (start : String) : Reader String := do
  let exists_ ← leading ["IF", "NOT", "EXISTS"]
  let n ← i.pathText
  let cluster ← onCluster
  let like ← if (← takesOneOf ["LIKE", "ILIKE"]).isSome then pathIfAny i.budget else pure none
  let clone ← if ← takes "CLONE" then pathIfAny i.budget else pure none
  let elements ← i.tableElements
  let rowless ← phrase ["WITHOUT", "ROWID"]
  let partitioned ← i.partitionedBy
  let kept ← i.storage
  let options ← i.withOptions
  let properties ← i.optionsAfter ["TBLPROPERTIES"]
  let engine ← i.engine
  let counter ← counter
  let order ← i.rowOrder
  let partition ← clause ["PARTITION", "BY"] i.wholeText
  let charset ← wordSetting ["DEFAULT", "CHARSET"]
  let collation ← wordSetting ["COLLATE"]
  let commit ← onCommit
  let strict ← phrase ["STRICT"]
  let comment ← tableComment
  let body ← clause ["AS"] (Query.render <$> i.query)
  let columns := if ¬elements.isEmpty then " (" ++ commas elements ++ ")"
    else if body.isEmpty ∧ like.isNone ∧ clone.isNone then " ()" else ""
  return start ++ "TABLE " ++ exists_ ++ n ++ cluster ++ columns ++ rowless ++
    modelTable "LIKE" like ++ modelTable "CLONE" clone ++ partitioned ++ kept.text ++ properties ++
    options ++ engine ++ comment ++ counter ++ order ++ partition ++ charset ++ collation ++ commit ++
    strict ++ body

/-- `CREATE EXTERNAL TABLE` after its keywords, which `start` holds.  Without a location there is no
text. -/
def createExternalTable (i : Inner) (start : String) : Reader Wording := do
  let exists_ ← leading ["IF", "NOT", "EXISTS"]
  let n ← i.pathText
  let elements ← i.tableElements
  let partitioned ← i.partitionedBy
  let kept ← i.storage
  let properties ← i.optionsAfter ["TBLPROPERTIES"]
  return kept.externalText.map fun text =>
    start ++ "TABLE " ++ exists_ ++ n ++ " (" ++ commas elements ++ ")" ++ partitioned ++ text ++
      properties

end SemanticLayer.Sql.Inner
