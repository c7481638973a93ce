import SemanticLayer.Proofs.Catalog.Identifiers
import SemanticLayer.Proofs.Sql.Values
import SemanticLayer.Query.Validation

/-
# The series that answers a query

A query asks for one value of a metric for every period and every combination of
dimensions, over the fact rows that it counts:

| part of a line | where it comes from |
| --- | --- |
| period | the start of a period of the grain that has a day of the range |
| combination | the values of some counted row in the dimensions; all nulls if no row is counted |
| value | the metric over the counted rows of the period and the combination |

This says nothing of statements: `MetricQuery.Answers` holds of any table that
has such lines, each once and the earlier periods first.
-/

namespace SemanticLayer

open Sql

/-- The name of a table, its parts between dots apart. -/
def tablePath (name : String) : List String :=
  (Identifier.parts name.toList).map String.ofList

/-- The table of a name. -/
def tableOf (tables : Tables) (name : String) : Table := tables (tablePath name)

/-- A text of a filter is what a value says. -/
def Sql.Engine.fits (db : Engine) (v : Value) (s : String) : Bool :=
  v ≠ .null ∧ v = db.read v s

/-! ### What a fact row says -/

namespace Catalog

variable (c : Catalog) (db : Engine) (tables : Tables)

/-- The value of a fact row in a column. -/
def input (row : List Value) (column : String) : Value :=
  (tableOf tables c.fact.table).cell row column

/-- The day of a fact row. -/
def dayOf (row : List Value) : Option Date := db.day? (c.input tables row c.fact.dateColumn)

/-- The row of a lookup table that a fact row points to; a null points to none. -/
def lookup? (j : Join) (row : List Value) : Option (List Value) :=
  let key := c.input tables row j.foreignKey
  let t := tableOf tables j.table
  t.rows.find? fun other => key ≠ .null ∧ key = t.cell other j.primaryKey

/-- The value of a fact row in a dimension. -/
def valueIn (row : List Value) (d : Dimension) : Value :=
  match d.join with
  | none => c.input tables row d.sourceColumn
  | some j => (c.lookup? tables j row).elim .null fun other =>
    (tableOf tables j.table).cell other d.sourceColumn

/-- The value of a fact row in the dimension of a name. -/
def value (row : List Value) (name : String) : Value :=
  match c.dimension name with
  | .ok d => c.valueIn tables row d
  | .error _ => .null

end Catalog

/-! ### Values of a metric -/

/-- The value of some inputs and denominators. -/
def Aggregation.total (inputs denominators : List Value) : Aggregation → Value
  | .sum => .number (Value.numbers inputs).sum
  | .avg => Value.average inputs
  | .count => Value.count inputs
  | .ratio =>
    if Value.numbers inputs = [] ∨ (Value.numbers denominators).sum = 0 then .null
    else .number ((Value.numbers inputs).sum / (Value.numbers denominators).sum)

/-- **A total takes its inputs as they come,** and the nulls among them make no difference. -/
theorem Aggregation.total_congr {a : Aggregation} {inputs inputs' denominators denominators' :
    List Value} (hinputs : (Value.present inputs).Perm (Value.present inputs'))
    (hdenominators : (Value.present denominators).Perm (Value.present denominators')) :
    a.total inputs denominators = a.total inputs' denominators' := by
  have hnumbers := Value.numbers_perm hinputs
  have hnil := Value.numbers_eq_nil_congr hinputs
  cases a with
  | sum => simp only [total, hnumbers.sum_eq]
  | avg => exact Value.average_congr hinputs
  | count => exact Value.count_congr hinputs
  | ratio => simp only [total, hnil, hnumbers.sum_eq, (Value.numbers_perm hdenominators).sum_eq]

/-- A line of a series. -/
structure SeriesLine where
  period : Date
  combination : List Value
  value : Value

/-- What a line is about. -/
def SeriesLine.key (l : SeriesLine) : Date × List Value := (l.period, l.combination)

/-- A line as a row. -/
def SeriesLine.row (l : SeriesLine) : List Value := .day l.period :: l.combination ++ [l.value]

namespace MetricQuery

/-! ### Counted rows -/

section

variable (q : MetricQuery) (c : Catalog) (db : Engine) (tables : Tables)

/-- Whether a fact row lies in the range and passes the filters. -/
def counts (row : List Value) : Bool :=
  ((c.dayOf db tables row).any fun d => q.start ≤ d ∧ d ≤ q.stop) &&
    q.filters.entries.all fun f => f.2.any (db.fits (c.value tables row f.1))

/-- The fact rows that are counted. -/
def counted : List (List Value) := (tableOf tables c.fact.table).rows.filter (q.counts c db tables)

/-- The values of a fact row in the dimensions. -/
def combination (row : List Value) : List Value := q.dimensions.map (c.value tables row)

/-- The period of a fact row. -/
def periodOf (row : List Value) : Option Date := (c.dayOf db tables row).bind (·.startOf? q.grain)

/-- The counted rows of a period and a combination. -/
def countedIn (key : Date × List Value) : List (List Value) :=
  (q.counted c db tables).filter fun row =>
    q.periodOf c db tables row = some key.1 ∧ q.combination c tables row = key.2

/-- The value of a metric over fact rows. -/
def total (m : Metric) (rows : List (List Value)) : Value :=
  m.aggregation.total (rows.map fun row => c.input tables row m.sourceColumn)
    (rows.map fun row => m.denominatorColumn.elim .null (c.input tables row))

/-- A period of the grain has a day of the range. -/
def Meets (p : Date) : Prop := ∃ d, q.start ≤ d ∧ d ≤ q.stop ∧ d.startOf? q.grain = some p

/-- Some counted row has the values, or none is counted and they are nulls. -/
def Observed (values : List Value) : Prop :=
  (∃ row ∈ q.counted c db tables, q.combination c tables row = values) ∨
    q.counted c db tables = [] ∧ values = q.dimensions.map fun _ => .null

/-! ### Tables that are read -/

/-- A query follows the joins of the dimensions that it selects or filters by. -/
def Follows (j : Join) : Prop :=
  ∃ d ∈ c.dimensions, (d.name ∈ q.dimensions ∨ d.name ∈ q.filters.keys) ∧ d.join = some j

/-- It reads the fact table, and the lookup tables behind these joins. -/
def Reads (name : String) : Prop := name = c.fact.table ∨ ∃ j, q.Follows c j ∧ name = j.table

/-- Every lookup table that it reads has its key. -/
def Keyed : Prop := ∀ j, q.Follows c j → (tableOf tables j.table).IsKey j.primaryKey

/-! ### Answers -/

/-- **A table answers a query** when its rows are one line for each period of the range and each
combination, in the order of the periods, with the value over the counted rows of both. -/
structure Answers (m : Metric) (t : Table) : Prop where
  columns : t.columns = q.grain.column :: q.dimensions ++ [m.name]
  lines : ∃ lines : List SeriesLine, t.rows = lines.map SeriesLine.row ∧
    (lines.map SeriesLine.key).Nodup ∧
    (∀ key, key ∈ lines.map SeriesLine.key ↔ q.Meets key.1 ∧ q.Observed c db tables key.2) ∧
    lines.Pairwise (fun l l' => l.period ≤ l'.period) ∧
    ∀ l ∈ lines, l.value = total c tables m (q.countedIn c db tables l.key)

end

/-! ### Other tables make no difference -/

section

variable {q : MetricQuery} {c : Catalog} {db : Engine} {tables tables' : Tables} {m : Metric}

section

variable (h : ∀ name, q.Reads c name → tableOf tables name = tableOf tables' name)

include h

theorem input_congr : c.input tables = c.input tables' := by
  funext row column
  rw [Catalog.input, Catalog.input, h _ (.inl rfl)]

theorem dayOf_congr : c.dayOf db tables = c.dayOf db tables' := by
  funext row
  rw [Catalog.dayOf, Catalog.dayOf, input_congr h]

/-- The value of a dimension comes from the fact table and the table of a join that is followed. -/
theorem value_congr {name : String} (hname : name ∈ q.dimensions ∨ name ∈ q.filters.keys)
    (row : List Value) : c.value tables row name = c.value tables' row name := by
  unfold Catalog.value
  cases hd : c.dimension name with
  | error e => rfl
  | ok d =>
    obtain ⟨hmem, rfl⟩ := Catalog.dimension_eq_ok_iff.1 hd
    change c.valueIn tables row d = c.valueIn tables' row d
    unfold Catalog.valueIn
    cases hjoin : d.join with
    | none => rw [input_congr h]
    | some j =>
      have htable := h j.table (.inr ⟨j, ⟨d, hmem, hname, hjoin⟩, rfl⟩)
      simp only [Catalog.lookup?, input_congr h, htable]

theorem counted_congr : q.counted c db tables = q.counted c db tables' := by
  rw [counted, counted, h _ (.inl rfl)]
  refine List.filter_congr fun row _ => ?_
  rw [counts, counts, dayOf_congr h]
  refine congrArg _ ?_
  rw [Bool.eq_iff_iff, List.all_eq_true, List.all_eq_true]
  refine forall₂_congr fun f hf => ?_
  rw [value_congr h (.inr (List.mem_map_of_mem hf))]

theorem combination_congr : q.combination c tables = q.combination c tables' := by
  funext row
  exact List.map_congr_left fun d hd => value_congr h (.inl hd) row

theorem countedIn_congr : q.countedIn c db tables = q.countedIn c db tables' := by
  funext key
  have hperiod : q.periodOf c db tables = q.periodOf c db tables' := by
    funext row
    rw [periodOf, periodOf, dayOf_congr h]
  rw [countedIn, countedIn, counted_congr h, hperiod, combination_congr h]

/-- **The answer to a query depends on the tables that it reads alone.** -/
theorem Answers.congr {t : Table} (hanswers : q.Answers c db tables m t) :
    q.Answers c db tables' m t := by
  obtain ⟨lines, hrows, hnodup, hkeys, hperiods, hvalues⟩ := hanswers.lines
  refine ⟨hanswers.columns, lines, hrows, hnodup, fun key => ?_, hperiods, fun l hl => ?_⟩
  · rw [hkeys, Observed, Observed, counted_congr h, combination_congr h]
  · rw [hvalues l hl, total, total, countedIn_congr h, input_congr h]

theorem Keyed.congr (hkeyed : q.Keyed c tables) : q.Keyed c tables' := by
  intro j hj
  rw [← h j.table (.inr ⟨j, hj, rfl⟩)]
  exact hkeyed j hj

end

end

end MetricQuery

end SemanticLayer
