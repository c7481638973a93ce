import SemanticLayer.Query.Validation
import SemanticLayer.Sql.ReadOnly

/-
# The statement of a query

A valid query becomes one statement of three defined tables and a final block:

| table | rows |
| --- | --- |
| `spine` | one for every day of the range, with the starts of its periods |
| `facts` | the fact rows in the range that pass the filters, with the metric's inputs |
| `grid` | every spine row with every combination of dimensions among the facts |

With no facts at all, one combination of nulls stands in, so that every period
has a row.  The final block joins the facts to the grid by day and dimensions
and aggregates them by the period of the query's grain.

Every name in a statement comes from the catalog, the spine table or this
file; the values of filters are string literals.
-/

namespace SemanticLayer

/-- Where a statement takes the days of its range from. -/
inductive SpineSource where
  /-- The days are listed in the statement. -/
  | inline
  /-- A table holds the days of the horizon. -/
  | table (name : String)
deriving DecidableEq

/-- A source of days, as it is shown. -/
def SpineSource.describe : SpineSource → String
  | inline => "Inline"
  | table name => "Table(" ++ Text.quoted name ++ ")"

/-- Why a query has no statement that may be run. -/
inductive CompileError where
  | catalog (e : CatalogError)
  | range (e : RangeError)
  | invalidSpineTable (name : String)
  | gate (e : Sql.GateError)
deriving DecidableEq

namespace CompileError

def kind : CompileError → String
  | catalog e => e.kind
  | range e => e.kind
  | invalidSpineTable _ => "InvalidSpineTable"
  | gate e => e.kind

def message : CompileError → String
  | catalog e => e.message
  | range e => e.message
  | invalidSpineTable name => "Invalid spine table name: " ++ Text.quoted name
  | gate e => e.message

end CompileError

open Sql

/-- The expression of an aggregate over expressions for inputs and denominators. -/
def Aggregation.expr (input denominator : Expr) : Aggregation → Expr
  | sum => apply "COALESCE" [apply "SUM" [input], .number "0" false]
  | avg => apply "AVG" [input]
  | count => apply "COUNT" [input]
  | ratio => .binary (.cast (.call "CAST") (apply "SUM" [input]) "DOUBLE PRECISION" "") "/"
      (apply "NULLIF" [apply "SUM" [denominator], .number "0" false])
where
  /-- A call of a function. -/
  apply (function : String) (args : List Expr) : Expr := .call [.bare function] "" args [] []

/-- The expression of an aggregate is written as its text. -/
theorem Aggregation.render_expr (input denominator : Expr) (a : Aggregation) :
    (a.expr input denominator).render = a.render input.render denominator.render := by
  cases a <;>
    simp [Aggregation.expr, Aggregation.expr.apply, Aggregation.render, Aggregation.call,
      Expr.render, Expr.texts, commas, joinWith, renderPath, Name.bare, Name.render, lead, trail,
      Part.texts, String.join, String.append_assoc]

/-- What a compiler needs to know besides the query. -/
structure Compiler where
  catalog : Catalog
  spine : Spine
  source : SpineSource

namespace Compiler

/-- A compiler that lists the days of a range in its statements. -/
def inlined (c : Catalog) (s : Spine) : Compiler := ⟨c, s, .inline⟩

/-- The compiler that takes the days of a range from a table. -/
def withSpineTable (k : Compiler) (name : String) : Except CompileError Compiler :=
  if Identifier.tableOk name then .ok { k with source := .table name }
  else .error (.invalidSpineTable name)

/-! ### Names -/

/-- A column of a table of the statement, by a name without quotes. -/
def plainColumn (table column : String) : Expr := .column [.bare table, .bare column]

/-- A column of a table of the statement, by a name in quotes. -/
def column (table column : String) : Expr := .column [.bare table, .quoted column]

/-- A name with dots, its parts in quotes. -/
def tableName (name : String) : List Name :=
  (Identifier.parts name.toList).map fun part => .quoted (String.ofList part)

/-- The literal of a date. -/
def dateLiteral (d : Date) : Expr := .typed "DATE" d.iso

/-- A conjunction of a condition and more of them. -/
def conjunction (first : Expr) (more : List Expr) : Expr :=
  more.foldl (fun left right => .binary left "AND" right) first

/-- A query that is one block. -/
def ofSelect (s : Select) : Query := .mk none (.select s) [] [] [] ""

/-- A block without grouping. -/
def selectFrom (items : List Item) (sources : List Source) (condition : Option Expr) : Select :=
  .mk [] items none sources [] condition [] [] none []

/-- A table without joins. -/
def only (name : List Name) : Source := .mk (.table name none) []

/-! ### Dimensions and their columns -/

/-- The dimensions that a query names: the selected ones, then those that only filters name. -/
def referenced (q : MetricQuery) : List String :=
  q.dimensions ++ q.filters.keys.filter fun key => !q.dimensions.contains key

/-- The ways to the lookup tables of some dimensions, each once. -/
def joinsOf (ds : List Dimension) : List Join := firstOccurrences (ds.filterMap Dimension.join)

/-- The name of the fact table, or of the lookup table at the end of a join. -/
def tableAlias (joins : List Join) : Option Join → String
  | none => "f"
  | some join => "j" ++ toString (joins.idxOf join + 1)

/-- The column of a dimension among the fact rows. -/
def dimensionColumn (joins : List Join) (d : Dimension) : Expr :=
  column (tableAlias joins d.join) d.sourceColumn

/-- The column of the dimension of a name, among the dimensions that a query names. -/
def columnOf (ds : List Dimension) (name : String) : Expr :=
  match ds.find? fun d => d.name == name with
  | some d => dimensionColumn (joinsOf ds) d
  | none => .column []

/-! ### The defined tables -/

/-- The columns of the days. -/
def spineColumns : List Name := Grain.columns.map Name.bare

/-- The bounds of a range as a condition on an expression. -/
def inRange (e : Expr) (start stop : Date) : Expr :=
  .between false e (dateLiteral start) (dateLiteral stop)

/-- The days of a range, one row each. -/
def spineBody (source : SpineSource) (rows : List DayRow) (start stop : Date) : Body :=
  match source with
  | .inline => .values "" (rows.map fun row => row.toList.map dateLiteral)
  | .table name =>
    .select (selectFrom (spineColumns.map fun c => .expr (.column [c])) [only (tableName name)]
      (some (inRange (.column [.bare Grain.day.column]) start stop)))

/-- The table of days. -/
def spineTable (body : Body) : TableDef :=
  .mk ⟨.bare "spine", spineColumns⟩ "" (.mk none body [] [] [] "") ""

/-- The day of a fact row. -/
def factDate (fact : FactTable) : Expr :=
  .cast (.call "CAST") (column "f" fact.dateColumn) "DATE" ""

/-- The join to a lookup table. -/
def lookupJoin (joins : List Join) (join : Join) : Sql.Join :=
  let joined := tableAlias joins (some join)
  .mk "LEFT JOIN" (.table (tableName join.table) (some ⟨.bare joined, []⟩))
    (.on (.binary (column "f" join.foreignKey) "=" (column joined join.primaryKey)))

/-- The condition of a filter on a column. -/
def filterCondition (e : Expr) : List String → Expr
  | [value] => .binary e "=" (.text value)
  | values => .inList false e (values.map .text)

/-- The denominators of the fact rows, if the metric is a ratio. -/
def denominatorItem (m : Metric) : List Item :=
  match m.aggregation, m.denominatorColumn with
  | .ratio, some denominator => [.aliased (column "f" denominator) (.bare "metric_denominator")]
  | _, _ => []

/-- The table of fact rows. -/
def factsTable (fact : FactTable) (m : Metric) (ds : List Dimension) (q : MetricQuery) : TableDef :=
  let joins := joinsOf ds
  let inputs := Item.aliased (factDate fact) (.bare Grain.day.column) ::
    .aliased (column "f" m.sourceColumn) (.bare "metric_input") :: denominatorItem m
  let split := q.dimensions.map fun d => Item.aliased (columnOf ds d) (.quoted d)
  let source := Source.mk (.table (tableName fact.table) (some ⟨.bare "f", []⟩))
    (joins.map (lookupJoin joins))
  let filters := q.filters.entries.map fun (key, values) => filterCondition (columnOf ds key) values
  .mk ⟨.bare "facts", []⟩ "" (ofSelect (selectFrom (inputs ++ split) [source]
    (some (conjunction (inRange (factDate fact) q.start q.stop) filters)))) ""

/-- The combinations of dimensions among the facts, or one of nulls if there are no facts. -/
def combinations (dimensions : List String) : Body :=
  .setOp
    (.select (.mk [.word "DISTINCT "] (dimensions.map fun d => .expr (.column [.quoted d])) none
      [only [.bare "facts"]] [] none [] [] none []))
    "UNION ALL"
    (.select (selectFrom (dimensions.map fun d => .aliased .null (.quoted d)) []
      (some (.exist true (ofSelect (selectFrom [.expr (.number "1" false)] [only [.bare "facts"]]
        none))))))

/-- The table of days with combinations of dimensions. -/
def gridTable (dimensions : List String) : TableDef :=
  let days := Grain.columns.map fun c => Item.expr (plainColumn "spine" c)
  let block :=
    if dimensions.isEmpty then selectFrom days [only [.bare "spine"]] none
    else
      selectFrom (days ++ dimensions.map fun d => .expr (column "dims" d))
        [.mk (.table [.bare "spine"] none)
          [.mk "CROSS JOIN" (.derived false (.mk none (combinations dimensions) [] [] [] "")
            (some ⟨.bare "dims", []⟩)) .free]] none
  .mk ⟨.bare "grid", []⟩ "" (ofSelect block) ""

/-! ### The statement -/

/-- What the values of a metric are grouped by: the period, then the dimensions. -/
def groupTerms (q : MetricQuery) : List Expr :=
  plainColumn "grid" q.grain.column :: q.dimensions.map (column "grid")

/-- The condition that joins the facts to the grid. -/
def gridCondition (q : MetricQuery) : Expr :=
  conjunction (.binary (plainColumn "facts" Grain.day.column) "=" (plainColumn "grid" Grain.day.column))
    (q.dimensions.map fun d => .distinct true (column "facts" d) (column "grid" d))

/-- The final block. -/
def finalSelect (m : Metric) (q : MetricQuery) : Select :=
  let terms := groupTerms q
  let aggregate := m.aggregation.expr (plainColumn "facts" "metric_input")
    (plainColumn "facts" "metric_denominator")
  .mk [] (terms.map Item.expr ++ [.aliased aggregate (.quoted m.name)]) none
    [.mk (.table [.bare "grid"] none)
      [.mk "LEFT JOIN" (.table [.bare "facts"] none) (.on (gridCondition q))]]
    [] none terms [] none []

/-- The statement of its parts. -/
def assemble (spineBody : Body) (fact : FactTable) (m : Metric) (ds : List Dimension)
    (q : MetricQuery) : Query :=
  .mk (some (.mk false [spineTable spineBody, factsTable fact m ds q, gridTable q.dimensions]))
    (.select (finalSelect m q)) ((groupTerms q).map fun e => (e, "")) [] [] ""

/-- A catalog's answer, its error as an error of compilation. -/
def ofCatalog {α : Type} : Except CatalogError α → Except (Fault CompileError) α
  | .ok a => .ok a
  | .error e => .error (.error (.catalog e))

/-- The days of a range, its errors as errors of compilation. -/
def daysOf (k : Compiler) (start stop : Date) : Except (Fault CompileError) (List DayRow) :=
  match k.spine.between start stop with
  | .ok rows => .ok rows
  | .error (.error e) => .error (.error (.range e))
  | .error (.broken b) => .error (.broken b)

/-- The statement of a query.  The metric is looked up first, then the dimensions, then the range. -/
def statement (k : Compiler) (q : MetricQuery) : Except (Fault CompileError) Query := do
  let m ← ofCatalog (k.catalog.metric q.metric)
  let ds ← ofCatalog ((referenced q).mapM k.catalog.dimension)
  let rows ← k.daysOf q.start q.stop
  return assemble (spineBody k.source rows q.start q.stop) k.catalog.fact m ds q

/-- The text of the statement of a query that some catalog and spine accept. -/
def compile (k : Compiler) {c : Catalog} {s : Spine} (v : ValidQuery c s) :
    Except (Fault CompileError) String :=
  Query.render <$> k.statement v.query

end Compiler

end SemanticLayer
