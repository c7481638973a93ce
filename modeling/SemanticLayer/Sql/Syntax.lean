import SemanticLayer.Fault
import SemanticLayer.Sql.Literal

/-
# Syntax trees of queries

A query is kept as a tree down to its expressions, so that its parts can be
looked at.  Forms with keywords between their operands (`EXTRACT(… FROM …)`,
`… AT TIME ZONE …`) are phrases: words and operands in the order in which they
are written.  Statements other than queries are kept as their canonical text.
-/

namespace SemanticLayer.Sql

/-- A name, with the quote around it if there is one. -/
structure Name where
  value : String
  quote : Option Char
deriving DecidableEq

/-- The name given to a table, and the names given to its columns if there are any. -/
structure Alias where
  name : Name
  columns : List Name
deriving DecidableEq

inductive CastForm where
  /-- `CAST(e AS t)`, or another function of that form. -/
  | call (function : String)
  /-- `e::t`. -/
  | colons
deriving DecidableEq

mutual

inductive Expr where
  /-- A column, its qualifiers before it. -/
  | column (path : List Name)
  /-- `*`, with its qualifiers before it. -/
  | star (qualifiers : List Name)
  | number (digits : String) (long : Bool)
  | text (value : String)
  /-- Any other literal, in its canonical spelling. -/
  | literal (spelling : String)
  | null
  /-- A text read as a value of a type. -/
  | typed (type : String) (value : String)
  | unary (operator : String) (e : Expr)
  | postfixed (e : Expr) (operator : String)
  | binary (left : Expr) (operator : String) (right : Expr)
  /-- Comparison with any or all of some values. -/
  | quantified (left : Expr) (operator : String) (quantifier : String) (right : Expr)
  | nested (e : Expr)
  | tuple (es : List Expr)
  /-- `e IS test`. -/
  | test (e : Expr) (test : String)
  | distinct (negated : Bool) (left right : Expr)
  | inList (negated : Bool) (e : Expr) (values : List Expr)
  | inQuery (negated : Bool) (e : Expr) (q : Query)
  | between (negated : Bool) (e low high : Expr)
  | cast (form : CastForm) (e : Expr) (type : String) (format : String)
  /-- A call: the function, `ALL` or `DISTINCT`, the arguments, what follows them before the
  closing bracket, and what follows that. -/
  | call (function : List Name) (quantifier : String) (args : List Expr) (clauses suffix : List Part)
  | case (operand : Option Expr) (branches : List (Expr × Expr)) (otherwise : Option Expr)
  | exist (negated : Bool) (q : Query)
  | subquery (q : Query)
  | phrase (parts : List Part)

/-- A word or an operand of a phrase. -/
inductive Part where
  | word (text : String)
  | expr (e : Expr)
  | query (q : Query)

inductive Query where
  /-- The `WITH` clause, the body, the terms of `ORDER BY` with what follows each, the clauses
  behind them, the row locks, and the clause that asks for a document. -/
  | mk (withClause : Option With) (body : Body) (order : List (Expr × String)) (tail : List Part)
    (locks : List String) (forClause : String)

/-- A `WITH` clause. -/
inductive With where
  | mk (isRecursive : Bool) (tables : List TableDef)

/-- A table defined in a `WITH` clause; `materialized` and `source` hold the words around its query. -/
inductive TableDef where
  | mk (called : Alias) (materialized : String) (q : Query) (source : String)

inductive Body where
  | select (s : Select)
  | query (q : Query)
  | setOp (left : Body) (operator : String) (right : Body)
  | values (row : String) (rows : List (List Expr))
  | table (text : String)
  | insert (text : String)
  | update (text : String)

/-- A `SELECT` block; `distinct` holds the words and expressions before its items, `views` the
`LATERAL VIEW` clauses behind its tables, `groupBy` what follows `GROUP BY` and `tail` what follows
`HAVING`. -/
inductive Select where
  | mk (distinct : List Part) (items : List Item) (into : Option String) (sources : List Source)
    (views : List Part) (condition : Option Expr) (groupBy : List Expr) (clauses : List Part)
    (having : Option Expr) (tail : List Part)

inductive Item where
  | expr (e : Expr)
  | aliased (e : Expr) (name : Name)
  | star (qualifiers : List Name)

/-- A table of a `FROM` clause with what is joined to it. -/
inductive Source where
  | mk (first : Factor) (joins : List Join)

inductive Join where
  /-- The words before the table, the table, and the condition. -/
  | mk (words : String) (table : Factor) (condition : Condition)

inductive Condition where
  | on (e : Expr)
  | sharing (columns : List Name)
  /-- The nearest row that passes a test, under another condition. -/
  | nearest (test : Expr) (more : Condition)
  | free

inductive Factor where
  | table (name : List Name) (called : Option Alias)
  | derived (lateral : Bool) (q : Query) (called : Option Alias)
  | nestedJoin (source : Source) (called : Option Alias)
  /-- Table functions and the like; `tail` is written behind the alias. -/
  | phrase (parts : List Part) (called : Option Alias) (tail : List Part)
  /-- A table whose rows and columns trade places as `parts` say. -/
  | turned (table : Factor) (parts : List Part) (called : Option Alias)

end

instance : Inhabited Expr := ⟨.null⟩

/-- The canonical text of a statement, if it has one. -/
abbrev Wording := Except Breakdown String

inductive Statement where
  | query (q : Query)
  /-- Any other statement, in its canonical text. -/
  | other (text : Wording)

/-! ### Printing -/

namespace Name

/-- A name as it is written. -/
def render (n : Name) : String :=
  match n.quote with
  | none => n.value
  | some q => enclose q n.value

/-- A name in double quotes. -/
def quoted (value : String) : Name := ⟨value, some '"'⟩

/-- A name without quotes. -/
def bare (value : String) : Name := ⟨value, none⟩

end Name

/-- Joins texts with another between them. -/
def joinWith (separator : String) : List String → String
  | [] => ""
  | s :: rest => rest.foldl (fun joined t => joined ++ separator ++ t) s

/-- Joins texts with commas. -/
def commas (texts : List String) : String := joinWith ", " texts

/-- A path of names with dots. -/
def renderPath (path : List Name) : String := joinWith "." (path.map Name.render)

/-- A word and a blank, or nothing. -/
def lead (word : String) : String := if word.isEmpty then "" else word ++ " "

/-- A blank and a word, or nothing. -/
def trail (word : String) : String := if word.isEmpty then "" else " " ++ word

def Alias.render (a : Alias) : String :=
  a.name.render ++ if a.columns.isEmpty then "" else " (" ++ commas (a.columns.map Name.render) ++ ")"

/-- ` AS alias`, or nothing. -/
def renderAlias : Option Alias → String
  | some a => " AS " ++ a.render
  | none => ""

/-- ` NOT`, or nothing. -/
def renderNot (negated : Bool) : String := if negated then " NOT" else ""

mutual

def Expr.render : Expr → String
  | .column path => renderPath path
  | .star qualifiers => if qualifiers.isEmpty then "*" else renderPath qualifiers ++ ".*"
  | .number digits long => digits ++ if long then "L" else ""
  | .text value => stringLiteral value
  | .literal spelling => spelling
  | .null => "NULL"
  | .typed type value => type ++ " " ++ stringLiteral value
  | .unary operator e => operator ++ e.render
  | .postfixed e operator => e.render ++ operator
  | .binary left operator right => left.render ++ " " ++ operator ++ " " ++ right.render
  | .quantified left operator quantifier right =>
    left.render ++ " " ++ operator ++ " " ++ quantifier ++ right.render
  | .nested e => "(" ++ e.render ++ ")"
  | .tuple es => "(" ++ commas (Expr.texts es) ++ ")"
  | .test e t => e.render ++ " IS " ++ t
  | .distinct negated left right =>
    left.render ++ " IS" ++ renderNot negated ++ " DISTINCT FROM " ++ right.render
  | .inList negated e values =>
    e.render ++ renderNot negated ++ " IN (" ++ commas (Expr.texts values) ++ ")"
  | .inQuery negated e q => e.render ++ renderNot negated ++ " IN (" ++ q.render ++ ")"
  | .between negated e low high =>
    e.render ++ renderNot negated ++ " BETWEEN " ++ low.render ++ " AND " ++ high.render
  | .cast (.call function) e type format =>
    function ++ "(" ++ e.render ++ " AS " ++ type ++ trail format ++ ")"
  | .cast .colons e type _ => e.render ++ "::" ++ type
  | .call function quantifier args clauses suffix =>
    renderPath function ++ "(" ++ lead quantifier ++ commas (Expr.texts args) ++
      String.join (Part.texts clauses) ++ ")" ++ String.join (Part.texts suffix)
  | .case operand branches otherwise =>
    "CASE" ++ (match operand with
      | some e => " " ++ e.render
      | none => "") ++ String.join (Expr.branchTexts branches) ++
      (match otherwise with
      | some e => " ELSE " ++ e.render
      | none => "") ++ " END"
  | .exist negated q => (if negated then "NOT " else "") ++ "EXISTS (" ++ q.render ++ ")"
  | .subquery q => "(" ++ q.render ++ ")"
  | .phrase parts => String.join (Part.texts parts)

/-- The texts of expressions. -/
def Expr.texts : List Expr → List String
  | [] => []
  | e :: rest => e.render :: Expr.texts rest

/-- The texts of the branches of a `CASE`. -/
def Expr.branchTexts : List (Expr × Expr) → List String
  | [] => []
  | (condition, result) :: rest =>
    (" WHEN " ++ condition.render ++ " THEN " ++ result.render) :: Expr.branchTexts rest

/-- The texts of the terms of an `ORDER BY` clause. -/
def Expr.orderTexts : List (Expr × String) → List String
  | [] => []
  | (e, direction) :: rest => (e.render ++ direction) :: Expr.orderTexts rest

def Part.render : Part → String
  | .word text => text
  | .expr e => e.render
  | .query q => q.render

/-- The texts of the parts of a phrase. -/
def Part.texts : List Part → List String
  | [] => []
  | p :: rest => p.render :: Part.texts rest

def Query.render : Query → String
  | .mk withClause body order tail locks forClause =>
    (match withClause with
      | some w => w.render ++ " "
      | none => "") ++ body.render ++
      (match order with
      | [] => ""
      | terms => " ORDER BY " ++ commas (Expr.orderTexts terms)) ++
      String.join (Part.texts tail) ++ String.join (locks.map trail) ++ trail forClause

def With.render : With → String
  | .mk isRecursive tables =>
    "WITH " ++ (if isRecursive then "RECURSIVE " else "") ++ commas (TableDef.texts tables)

def TableDef.render : TableDef → String
  | .mk called materialized q source =>
    called.render ++ " AS " ++ lead materialized ++ "(" ++ q.render ++ ")" ++ trail source

/-- The texts of defined tables. -/
def TableDef.texts : List TableDef → List String
  | [] => []
  | t :: rest => t.render :: TableDef.texts rest

def Body.render : Body → String
  | .select s => s.render
  | .query q => "(" ++ q.render ++ ")"
  | .setOp left operator right => left.render ++ " " ++ operator ++ " " ++ right.render
  | .values row rows => "VALUES " ++ commas (Expr.rowTexts row rows)
  | .table text => text
  | .insert text => text
  | .update text => text

/-- The texts of the rows of a `VALUES` list. -/
def Expr.rowTexts (row : String) : List (List Expr) → List String
  | [] => []
  | es :: rest => (row ++ "(" ++ commas (Expr.texts es) ++ ")") :: Expr.rowTexts row rest

def Select.render : Select → String
  | .mk distinct items into sources views condition groupBy clauses having tail =>
    "SELECT " ++ String.join (Part.texts distinct) ++ commas (Item.texts items) ++
      (match into with
      | some text => " INTO " ++ text
      | none => "") ++
      (match sources with
      | [] => ""
      | sources => " FROM " ++ commas (Source.texts sources)) ++
      String.join (Part.texts views) ++
      (match condition with
      | some e => " WHERE " ++ e.render
      | none => "") ++
      (match groupBy with
      | [] => ""
      | es => " GROUP BY " ++ commas (Expr.texts es)) ++
      String.join (Part.texts clauses) ++
      (match having with
      | some e => " HAVING " ++ e.render
      | none => "") ++
      String.join (Part.texts tail)

def Item.render : Item → String
  | .expr e => e.render
  | .aliased e name => e.render ++ " AS " ++ name.render
  | .star qualifiers => if qualifiers.isEmpty then "*" else renderPath qualifiers ++ ".*"

/-- The texts of the items of a block. -/
def Item.texts : List Item → List String
  | [] => []
  | i :: rest => i.render :: Item.texts rest

def Source.render : Source → String
  | .mk first joins => first.render ++ String.join (Join.texts joins)

/-- The texts of sources. -/
def Source.texts : List Source → List String
  | [] => []
  | s :: rest => s.render :: Source.texts rest

def Join.render : Join → String
  | .mk words table condition => " " ++ words ++ " " ++ table.render ++ condition.render

/-- The texts of joins. -/
def Join.texts : List Join → List String
  | [] => []
  | j :: rest => j.render :: Join.texts rest

def Condition.render : Condition → String
  | .on e => " ON " ++ e.render
  | .sharing columns => " USING(" ++ commas (columns.map Name.render) ++ ")"
  | .nearest test more => " MATCH_CONDITION (" ++ test.render ++ ")" ++ more.render
  | .free => ""

def Factor.render : Factor → String
  | .table name called => renderPath name ++ renderAlias called
  | .derived lateral q called =>
    (if lateral then "LATERAL " else "") ++ "(" ++ q.render ++ ")" ++ renderAlias called
  | .nestedJoin source called => "(" ++ source.render ++ ")" ++ renderAlias called
  | .phrase parts called tail =>
    String.join (Part.texts parts) ++ renderAlias called ++ String.join (Part.texts tail)
  | .turned table parts called =>
    table.render ++ String.join (Part.texts parts) ++ renderAlias called

end

def Statement.wording : Statement → Wording
  | .query q => .ok q.render
  | .other text => text

end SemanticLayer.Sql
