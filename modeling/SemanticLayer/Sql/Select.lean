import SemanticLayer.Sql.Source

/-
# Reading queries

A query is a body with an optional `WITH` clause before it and clauses behind
it.  The body is a `SELECT` block, a list of rows, a table or a query in
brackets, or such bodies joined by set operators, of which `INTERSECT` binds
more tightly than `UNION` and `EXCEPT`.
-/

namespace SemanticLayer.Sql.Inner

open Reader

/-! ### Blocks -/

/-- An item of a block: `*`, or an expression with an optional name. -/
def item (i : Inner) : Reader Item := do
  match ← i.starOrExpr with
  | .star qualifiers => return .star qualifiers
  | e =>
    if isFrom e then failure
    match ← newName? columnReserved with
    | some n => return .aliased e n
    | none => return .expr e
where
  /-- Whether an expression is the word `from`. -/
  isFrom : Expr → Bool
    | .column [⟨value, none⟩] => value.toLower == "from"
    | _ => false

/-- What stands between `SELECT` and the items. -/
def selectWords (i : Inner) : Reader (List Part) := do
  let all ← takes "ALL"
  let distinct ← if ← takes "DISTINCT" then do
      if all then failure
      if ← takes "ON" then
        let es ← bracketed (listOrNone i.budget i.whole)
        pure (.word "DISTINCT ON (" :: listed es ++ [.word ") "])
      else pure [.word "DISTINCT "]
    else pure []
  let top ← if ← takes "TOP" then top else pure []
  return distinct ++ top
where
  /-- A number of rows after `TOP`. -/
  top : Reader (List Part) := do
    let n ← if ← seesSymbol "(" then do
        pure [.word "(", .expr (← bracketed i.whole), .word ")"]
      else do pure [.word (← digits)]
    let percent ← phrase ["PERCENT"]
    let ties ← phrase ["WITH", "TIES"]
    return .word "TOP " :: n ++ [.word (percent ++ ties ++ " ")]

/-- The table that `INTO` makes. -/
def intoTable (i : Inner) : Reader String := do
  let temporary ← takesOneOf ["TEMP", "TEMPORARY"]
  let unlogged ← takes "UNLOGGED"
  let table ← takes "TABLE"
  let n ← path i.budget
  return (if temporary.isSome then "TEMPORARY " else "") ++ (if unlogged then "UNLOGGED " else "") ++
    (if table then "TABLE " else "") ++ renderPath n

/-- A group of expressions in brackets, which may be empty. -/
def groupingSet (i : Inner) : Reader (List Expr) := bracketed (listOrNone i.budget i.whole)

/-- A group of expressions, without brackets if it is a single one. -/
def grouping (i : Inner) : Reader (List Expr) := do
  if ← seesSymbol "(" then i.groupingSet else do return [← i.whole]

/-- A term of a `GROUP BY` clause. -/
def groupTerm (i : Inner) : Reader Expr := do
  if ← takesAll ["GROUPING", "SETS"] then
    let sets ← bracketed (list i.budget i.groupingSet)
    return .phrase (.word "GROUPING SETS (" ::
      ((sets.map fun es => .word "(" :: listed es ++ [.word ")"]).intersperse [.word ", "]).flatten ++
      [.word ")"])
  match ← takesOneOf ["CUBE", "ROLLUP"] with
  | some k =>
    let sets ← bracketed (list i.budget i.grouping)
    return .phrase (.word (k ++ " (") ::
      ((sets.map fun es => match es with
        | [e] => [Part.expr e]
        | es => .word "(" :: listed es ++ [.word ")"]).intersperse [.word ", "]).flatten ++
      [.word ")"])
  | none =>
    match ← ahead 2 with
    | [.symbol "(", .symbol ")"] => skip; skip; return .tuple []
    | _ => i.whole

/-- A `GROUP BY` clause, if there is one. -/
def groupBy (i : Inner) : Reader (List Expr) := do
  if ← takesAll ["GROUP", "BY"] then
    if ← takes "ALL" then return [.column [.bare "ALL"]]
    list i.budget i.groupTerm
  else return []

/-- A clause of expressions after two keywords, if it is there. -/
def exprClause (i : Inner) (keywords : List String) : Reader (List Part) := do
  if ← takesAll keywords then
    return .word (" " ++ joinWith " " keywords ++ " ") :: listed (← i.exprs)
  return []

/-- A window with a name. -/
def namedWindow (i : Inner) : Reader (List Part) := do
  let n ← name
  keyword "AS"
  symbol "("
  return .word (n.render ++ " AS ") :: (← i.window)

/-- The windows of a block, after their keyword. -/
def windows (i : Inner) : Reader (List Part) := do
  let ws ← list i.budget i.namedWindow
  return .word " WINDOW " :: (ws.intersperse [.word ", "]).flatten

/-- A condition on windows, after its keyword. -/
def qualify (i : Inner) : Reader (List Part) := do
  return [.word " QUALIFY ", .expr (← i.whole)]

/-- The clauses about windows, in either order. -/
def windowClauses (i : Inner) : Reader (List Part) := do
  if ← takes "WINDOW" then
    let ws ← i.windows
    if ← takes "QUALIFY" then return ws ++ (← i.qualify)
    return ws
  if ← takes "QUALIFY" then
    let q ← i.qualify
    if ← takes "WINDOW" then return q ++ (← i.windows)
    return q
  return []

/-- A `LATERAL VIEW` clause, if one is next. -/
def lateralView (i : Inner) : Reader (Option (List Part)) := do
  if ← takesAll ["LATERAL", "VIEW"] then
    let outer ← phrase ["OUTER"]
    let e ← i.whole
    let n ← path i.budget
    let columns := (← list i.budget (newName? viewReserved)).filterMap id
    return some [.word (" LATERAL VIEW" ++ outer ++ " "), .expr e, .word (" " ++ renderPath n ++
      if columns.isEmpty then "" else " AS " ++ commas (columns.map Name.render))]
  return none

/-- A `SELECT` block after its first word. -/
def block (i : Inner) : Reader Select := do
  let words ← i.selectWords
  let items ← list i.budget i.item
  let into ← whenTakes "INTO" i.intoTable
  let sources ← if ← takes "FROM" then list i.budget i.source else pure []
  let views ← many i.lateralView i.budget
  let condition ← whenTakes "WHERE" i.whole
  let group ← i.groupBy
  let cluster ← i.exprClause ["CLUSTER", "BY"]
  let distribute ← i.exprClause ["DISTRIBUTE", "BY"]
  let sort ← i.exprClause ["SORT", "BY"]
  let having ← whenTakes "HAVING" i.whole
  let tail ← i.windowClauses
  return .mk words items into sources views.flatten condition group (cluster ++ distribute ++ sort)
    having tail

/-! ### Bodies -/

/-- The rows of a list of values, and the word before them. -/
def valueRows (i : Inner) : Reader Body := do
  let rows ← list i.budget (do
    let explicit ← takes "ROW"
    return (explicit, ← i.row))
  return .values (if rows.any (·.1) then "ROW" else "") (rows.map (·.2))

/-- A table as a body, after its keyword: three tokens, of which the second may be a dot. -/
def tableBody : Reader Body := do
  let three ← ahead 3
  skip
  skip
  skip
  match three with
  | [.word s _ _, .symbol ".", .word t _ _] => return .table ("TABLE " ++ s ++ "." ++ t)
  | _ :: .symbol "." :: _ => failure
  | .word t _ _ :: _ => return .table ("TABLE " ++ t)
  | _ => failure

/-- A body without set operators. -/
def simpleBody (i : Inner) : Reader Body := do
  if ← takes "SELECT" then return .select (← i.block)
  if ← seesSymbol "(" then return .query (← i.subquery)
  if ← takes "VALUES" then i.valueRows
  else if ← takes "TABLE" then tableBody
  else failure

/-- How tightly a set operator binds. -/
def setBinding (k : String) : Nat := if k == "INTERSECT" then 20 else 10

/-- The words behind a set operator. -/
def setWords : Reader String :=
  firstPhrase [["DISTINCT", "BY", "NAME"], ["BY", "NAME"], ["ALL", "BY", "NAME"], ["ALL"],
    ["DISTINCT"]]

/-- Whether the token ahead is a set operator, and which. -/
def setOperator : Reader (Option String) := do
  match ← peek with
  | some (.word _ none k) =>
    return if ["UNION", "EXCEPT", "INTERSECT"].contains k then some k else none
  | _ => return none

/-- Set operators that bind more tightly than a number says; `right` reads what follows one. -/
def setTail (least : Nat) (right : Nat → Reader Body) : Nat → Body → Reader Body
  | 0, _ => failure
  | budget + 1, left => do
    match ← setOperator with
    | some k =>
      if least < setBinding k then
        skip
        let words ← setWords
        let r ← right (setBinding k)
        setTail least right budget (.setOp left (k ++ words) r)
      else return left
    | none => return left

/-- What may stand to the right of `INTERSECT`. -/
def factorBody (i : Inner) : Reader Body := do
  setTail 20 (fun _ => failure) i.budget (← i.simpleBody)

/-- What may stand to the right of `UNION` or `EXCEPT`. -/
def termBody (i : Inner) : Reader Body := do
  setTail 10 (fun _ => i.factorBody) i.budget (← i.simpleBody)

/-- The body of a query. -/
def body (i : Inner) : Reader Body := do
  setTail 0 (fun at_ => if at_ = 20 then i.factorBody else i.termBody) i.budget (← i.simpleBody)

/-! ### Queries -/

/-- A table defined in a `WITH` clause. -/
def tableDef (i : Inner) : Reader TableDef := do
  let n ← name
  let columns ← if ← sees "AS" then pure [] else names i.budget
  keyword "AS"
  let materialized ← firstPhrase [["MATERIALIZED"], ["NOT", "MATERIALIZED"]]
  let q ← i.subquery
  let origin ← whenTakes "FROM" name
  let source := match origin with
    | some n => "FROM " ++ n.render
    | none => ""
  return .mk ⟨n, columns⟩ (String.ofList (materialized.toList.drop 1)) q source

/-- A `WITH` clause, if there is one. -/
def withClause (i : Inner) : Reader (Option With) := whenTakes "WITH" do
  let isRecursive ← takes "RECURSIVE"
  return .mk isRecursive (← list i.budget i.tableDef)

/-- The limit of a query, after its keyword. -/
def limit (i : Inner) : Reader (List Part) := do
  if ← takes "ALL" then return []
  return [.word " LIMIT ", .expr (← i.whole)]

/-- The offset of a query, after its keyword. -/
def offset (i : Inner) : Reader (List Part) := do
  let e ← i.whole
  return [.word " OFFSET ", .expr e, .word (← firstPhrase [["ROW"], ["ROWS"]])]

/-- Limit and offset in either order; a limit of all rows may be followed by another limit. -/
def limits (i : Inner) : Reader (List Part) := do
  let (limit, offset) ← step (← step ([], []))
  return limit ++ offset
where
  /-- Takes a limit and an offset as far as they have not been taken. -/
  step (found : List Part × List Part) : Reader (List Part × List Part) := do
    let limit ← if found.1.isEmpty then do
        if ← takes "LIMIT" then i.limit else pure []
      else pure found.1
    let offset ← if found.2.isEmpty then do
        if ← takes "OFFSET" then i.offset else pure []
      else pure found.2
    return (limit, offset)

/-- The number of rows to fetch, after its keyword. -/
def fetch : Reader (List Part) := do
  let _ ← oneOf ["FIRST", "NEXT"]
  let count ← if (← takesOneOf ["ROW", "ROWS"]).isSome then pure "" else do
    let v ← value
    let percent ← phrase ["PERCENT"]
    let _ ← oneOf ["ROW", "ROWS"]
    pure (" " ++ v.render ++ percent)
  let ties ← if ← takes "ONLY" then pure "ONLY" else do
    keyword "WITH"
    keyword "TIES"
    pure "WITH TIES"
  return [.word (" FETCH FIRST" ++ count ++ " ROWS " ++ ties)]

/-- A row lock, after `FOR`. -/
def lock (i : Inner) : Reader String := do
  let kind ← oneOf ["UPDATE", "SHARE"]
  let of ← if ← takes "OF" then do pure (" OF " ++ renderPath (← path i.budget)) else pure ""
  let wait ← firstPhrase [["NOWAIT"], ["SKIP", "LOCKED"]]
  return "FOR " ++ kind ++ of ++ wait

/-- The name of a document's element, in brackets. -/
def elementName : Reader String := do
  return "('" ++ (← bracketed (literalText isKeywordText)) ++ "')"

/-- The options of a document, in their order, each empty if it is not given. -/
abbrev DocumentOptions := List (String × String)

/-- Sets an option. -/
def setOption (k text : String) (options : DocumentOptions) : DocumentOptions :=
  options.map fun (name, old) => (name, if name == k then text else old)

/-- One more comma of a document's options, with the option behind it if there is one. -/
def documentOption (options : DocumentOptions) : Reader (Option DocumentOptions) := do
  if ← takesSymbol "," then
    match ← takesOneOf (options.map (·.1)) with
    | some k =>
      let detail ← if k == "BINARY" then do
          keyword "BASE64"
          pure " BASE64"
        else if k == "ROOT" then elementName
        else pure ""
      return some (setOption k (", " ++ k ++ detail) options)
    | none => return some options
  return none

/-- The clause that asks for a document, after `FOR`, if it is one. -/
def documentClause (i : Inner) : Reader (Option String) := do
  match ← takesOneOf ["XML", "JSON", "BROWSE"] with
  | some "XML" =>
    let mode ← oneOf ["RAW", "AUTO", "EXPLICIT", "PATH"]
    let named ← if ["RAW", "PATH"].contains mode then seesSymbol "(" else pure false
    let element ← if named then elementName else pure ""
    clauseOf ("FOR XML " ++ mode ++ element) ["BINARY", "TYPE", "ROOT", "ELEMENTS"]
  | some "JSON" =>
    let mode ← oneOf ["AUTO", "PATH"]
    clauseOf ("FOR JSON " ++ mode) ["ROOT", "INCLUDE_NULL_VALUES", "WITHOUT_ARRAY_WRAPPER"]
  | some k => return some ("FOR " ++ k)
  | none => return none
where
  /-- The clause with its options, which have a fixed order. -/
  clauseOf (start : String) (order : List String) : Reader (Option String) := do
    let options ← repeated documentOption i.budget (order.map fun k => (k, ""))
    return some (start ++ String.join (options.map (·.2)))

/-- The row locks of a query, and the clause that asks for a document and ends them. -/
def forClauses (i : Inner) : Nat → Reader (List String × String)
  | 0 => failure
  | budget + 1 => do
    if ← takes "FOR" then
      match ← i.documentClause with
      | some clause => return ([], clause)
      | none =>
        let l ← i.lock
        let (locks, clause) ← forClauses i budget
        return (l :: locks, clause)
    return ([], "")

/-- The clauses behind the body of a query. -/
def queryTail (i : Inner) (w : Option With) (b : Body) : Reader Query := do
  let order ← i.orderBy
  let limits ← i.limits
  let fetched ← if ← takes "FETCH" then fetch else pure []
  let (locks, clause) ← i.forClauses i.budget
  return .mk w b order (limits ++ fetched) locks clause

end SemanticLayer.Sql.Inner
