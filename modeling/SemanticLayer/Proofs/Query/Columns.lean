import SemanticLayer.Proofs.Query.Spelling
import SemanticLayer.Proofs.Sql.Nesting
import SemanticLayer.Service.Response

/-
# The columns of compiled statements

The tables and the final block of a statement take the names of their columns
from three places, which no check compares with each other:

| columns | of the compiler | of the catalog |
| --- | --- | --- |
| of `facts` | `date_day`, `metric_input`, of a ratio `metric_denominator` | the dimensions |
| of `grid` | the columns of the days | the dimensions |
| of the answer | the column of the grain | the dimensions, the metric |

So two columns have one name exactly when a dimension of the query is named
like a column of the compiler or like the metric, or the metric like the column
of the grain (`Compiler.columns_distinct_iff`).  Then references to the columns
are ambiguous, or a column is missing in the documents of the rows.
-/

namespace SemanticLayer

/-! ### Columns of a query -/

namespace Sql

/-- A name as it is compared: in quotes as it is written, otherwise in lower case. -/
def Name.folded (n : Name) : String :=
  if n.quote.isSome then n.value else String.ofList (n.value.toList.map Char.toLower)

/-- The column that an item becomes, unless the database makes up a name for it. -/
def Item.column? : Item → Option String
  | .aliased _ n => some n.folded
  | .expr (.column path) => path.getLast?.map Name.folded
  | _ => none

/-- The columns of a block. -/
def Select.columns (s : Select) : List String := s.items.filterMap Item.column?

/-- The columns of a query, if its body is a block. -/
def Query.columns (q : Query) : List String := q.block?.elim [] Select.columns

/-- The columns of a table of a `WITH` clause. -/
def TableDef.columns : TableDef → List String
  | .mk called _ q _ =>
    if called.columns.isEmpty then q.columns else called.columns.map Name.folded

/-- The name of a table of a `WITH` clause. -/
def TableDef.name : TableDef → Name
  | .mk called _ _ _ => called.name

/-- The columns of the table of a name that the `WITH` clause of a query defines. -/
def Query.columnsOf? (table : String) : Query → Option (List String)
  | .mk (some (.mk _ tables)) _ _ _ _ _ =>
    (tables.find? fun t => t.name.folded == table).map TableDef.columns
  | _ => none

/-- Somewhere in a query stands a column of a table. -/
def Query.Refers (q : Query) (table : String) (column : Name) : Prop :=
  (Node.query q).Holds (.expr (.column [.bare table, column]))

/-- Whatever column of a table a query names, at most one of the table's columns has that name. -/
def Query.Unambiguous (q : Query) (table : String) (columns : List String) : Prop :=
  ∀ column, q.Refers table column → columns.count column.folded ≤ 1

end Sql

open Sql

/-! ### Documents of rows -/

/-- What is left of entries stands among them in their order. -/
theorem Json.lastOfEach_sublist (es : List (String × Json)) : (lastOfEach es).Sublist es := by
  induction es with
  | nil => exact .slnil
  | cons e es ih =>
    rw [lastOfEach]
    split
    · exact ih.cons e
    · exact ih.cons_cons e

/-- **Every entry is left exactly when no two have one key.** -/
theorem Json.lastOfEach_eq_self_iff {es : List (String × Json)} :
    lastOfEach es = es ↔ (es.map (·.1)).Nodup := by
  induction es with
  | nil => simp [lastOfEach]
  | cons e es ih =>
    rw [List.map_cons, List.nodup_cons, ← ih, lastOfEach]
    by_cases he : es.any (·.1 == e.1) = true
    · have hmem : e.1 ∈ es.map (·.1) := by simpa using he
      have hlength := (lastOfEach_sublist es).length_le
      rw [if_pos he]
      refine ⟨fun h => ?_, fun h => absurd hmem h.1⟩
      rw [h, List.length_cons] at hlength
      omega
    · have hnot : e.1 ∉ es.map (·.1) := by simpa using he
      rw [if_neg he, List.cons.injEq]
      exact ⟨fun h => ⟨hnot, h.2⟩, fun h => ⟨rfl, h.2⟩⟩

/-- **A row keeps its columns in a document** exactly when no two of them have one name. -/
theorem Row.lastOfEach_entries_iff {r : Row} (h : r.columns.length ≤ r.cells.length) :
    Json.lastOfEach r.entries = r.entries ↔ r.columns.Nodup := by
  rw [Json.lastOfEach_eq_self_iff, Row.entries, List.map_fst_zip (by simpa using h)]

namespace Compiler

/-! ### The tables of a statement -/

/-- The columns of the facts besides the dimensions. -/
def inputColumns (m : Metric) : List String :=
  [Grain.day.column, "metric_input"] ++
    if m.aggregation = .ratio then ["metric_denominator"] else []

theorem nodup_inputColumns (m : Metric) : (inputColumns m).Nodup := by
  unfold inputColumns
  split <;> decide

/-- The compiler's own names are in lower case. -/
theorem folded_own : ∀ w ∈ ownNames, (Name.bare w).folded = w := by decide

/-- The columns of the dimensions are the dimensions. -/
theorem columns_dimensions (item : String → Item) (names : List String)
    (h : ∀ d, (item d).column? = some d) : (names.map item).filterMap Item.column? = names := by
  rw [List.filterMap_map, show Item.column? ∘ item = some from funext h, List.filterMap_some]

/-- A table that is one block has the columns of its items. -/
theorem columns_ofSelect (name : Name) (items : List Item) (sources : List Source)
    (condition : Option Expr) :
    (TableDef.mk ⟨name, []⟩ "" (ofSelect (selectFrom items sources condition)) "").columns =
      items.filterMap Item.column? := rfl

theorem columns_factsTable {fact : FactTable} {m : Metric} {ds : List Dimension} {q : MetricQuery}
    (hm : m.Spelled) :
    (factsTable fact m ds q).columns = inputColumns m ++ q.dimensions := by
  have hsplit := columns_dimensions (fun d => .aliased (columnOf ds d) (.quoted d)) q.dimensions
    fun _ => rfl
  have hinputs : [Item.aliased (factDate fact) (.bare Grain.day.column),
      .aliased (column "f" m.sourceColumn) (.bare "metric_input")].filterMap Item.column? =
        [Grain.day.column, "metric_input"] := by
    simp [Item.column?, folded_own "metric_input" (by decide),
      folded_own Grain.day.column (by decide)]
  have hdenominator : (denominatorItem m).filterMap Item.column? =
      if m.aggregation = .ratio then ["metric_denominator"] else [] := by
    unfold denominatorItem
    split
    · rename_i hratio _
      rw [if_pos hratio]
      simp [Item.column?, folded_own "metric_denominator" (by decide)]
    · rename_i hnone
      rw [if_neg fun hratio => ?_]
      · rfl
      · obtain ⟨denominator, hd, -⟩ := hm.denominator hratio
        exact hnone denominator hratio hd
  rw [factsTable, columns_ofSelect, List.filterMap_append, hsplit, inputColumns, ← hinputs,
    ← hdenominator, ← List.filterMap_append]
  rfl

theorem columns_gridTable (dimensions : List String) :
    (gridTable dimensions).columns = Grain.columns ++ dimensions := by
  have hdays : (Grain.columns.map fun c => Item.expr (plainColumn "spine" c)).filterMap
      Item.column? = Grain.columns := by decide
  have hsplit := columns_dimensions (fun d => .expr (column "dims" d)) dimensions fun _ => rfl
  unfold gridTable
  split
  · rename_i hnone
    rw [List.isEmpty_iff.1 hnone, List.append_nil]
    exact hdays
  · rw [columns_ofSelect, List.filterMap_append, hdays, hsplit]

theorem columns_finalSelect (m : Metric) (q : MetricQuery) :
    (finalSelect m q).columns = q.grain.column :: q.dimensions ++ [m.name] := by
  have hsplit := columns_dimensions (fun d => .expr (column "grid" d)) q.dimensions fun _ => rfl
  have hgrain : (Item.expr (plainColumn "grid" q.grain.column)).column? = some q.grain.column := by
    cases q.grain <;> decide
  change ((_ :: (q.dimensions.map (column "grid"))).map Item.expr ++ [_]).filterMap Item.column? = _
  rw [List.filterMap_append, List.map_cons, List.filterMap_cons_some hgrain, List.map_map]
  exact congrArg (_ :: · ++ [m.name]) hsplit

/-! ### References to the columns -/

/-- A conjunction holds its conditions. -/
theorem holds_conjunction (first : Expr) (more : List Expr) :
    ∀ e ∈ first :: more, (Node.expr (conjunction first more)).Holds (.expr e) := by
  induction more generalizing first with
  | nil =>
    intro e he
    obtain rfl := List.mem_singleton.1 he
    exact .refl
  | cons next more ih =>
    obtain ⟨hpair, hmore⟩ := List.forall_mem_cons.1 (ih (.binary first "AND" next))
    rw [List.forall_mem_cons, List.forall_mem_cons]
    exact ⟨hpair.tail List.mem_cons_self,
      hpair.tail (List.mem_cons_of_mem _ List.mem_cons_self), hmore⟩

/-- A call holds its arguments. -/
theorem holds_apply {e : Expr} {function : String} {args : List Expr} (h : e ∈ args) :
    (Node.expr (Aggregation.expr.apply function args)).Holds (.expr e) :=
  .single (by simp [Node.Step, Node.children, Aggregation.expr.apply, h])

/-- Every aggregate holds its input. -/
theorem holds_input (a : Aggregation) (input denominator : Expr) :
    (Node.expr (a.expr input denominator)).Holds (.expr input) := by
  cases a with
  | sum => exact (holds_apply List.mem_cons_self).trans (holds_apply List.mem_cons_self)
  | avg | count => exact holds_apply List.mem_cons_self
  | ratio =>
    refine .head (b := .expr (.cast ..)) List.mem_cons_self (.head (List.mem_singleton.2 rfl) ?_)
    exact holds_apply List.mem_cons_self

/-- A ratio holds its denominator. -/
theorem holds_denominator (input denominator : Expr) :
    (Node.expr (Aggregation.ratio.expr input denominator)).Holds (.expr denominator) :=
  .head (List.mem_cons_of_mem _ List.mem_cons_self)
    ((holds_apply List.mem_cons_self).trans (holds_apply List.mem_cons_self))

section

variable (body : Body) (fact : FactTable) (m : Metric) (ds : List Dimension) (q : MetricQuery)

theorem holds_finalSelect :
    (Node.query (assemble body fact m ds q)).Holds (.select (finalSelect m q)) :=
  Node.holds_block rfl

/-- The statement holds the condition that joins the facts to the grid. -/
theorem holds_gridCondition :
    (Node.query (assemble body fact m ds q)).Holds (.expr (gridCondition q)) := by
  have hsource := (holds_finalSelect body fact m ds q).trans
    (Node.holds_source (List.mem_singleton.2 rfl))
  have hjoin := hsource.tail (List.mem_cons_of_mem _ (List.mem_singleton.2 rfl))
  have hcondition := hjoin.tail (List.mem_cons_of_mem _ (List.mem_singleton.2 rfl))
  exact hcondition.tail (List.mem_singleton.2 rfl)

/-- The statement holds the aggregate. -/
theorem holds_value :
    (Node.query (assemble body fact m ds q)).Holds (.expr (m.aggregation.expr
      (plainColumn "facts" "metric_input") (plainColumn "facts" "metric_denominator"))) :=
  ((holds_finalSelect body fact m ds q).trans (Node.holds_item List.mem_concat_self)).tail
    (List.mem_singleton.2 rfl)

variable {q}

/-- Of every selected dimension, the statement compares the columns of facts and grid. -/
theorem holds_comparison {d : String} (h : d ∈ q.dimensions) :
    (Node.query (assemble body fact m ds q)).Holds
      (.expr (.distinct true (column "facts" d) (column "grid" d))) :=
  (holds_gridCondition body fact m ds q).trans
    (holds_conjunction _ _ _ (List.mem_cons_of_mem _ (List.mem_map_of_mem h)))

/-- **Every column of the facts is named somewhere** in the statement. -/
theorem refers_facts {w : String} (h : w ∈ inputColumns m ++ q.dimensions) :
    ∃ x, (assemble body fact m ds q).Refers "facts" x ∧ x.folded = w := by
  have hday := (holds_gridCondition body fact m ds q).trans (holds_conjunction _ _ _
    List.mem_cons_self)
  have hvalue := holds_value body fact m ds q
  simp only [inputColumns, List.mem_append, List.mem_cons, List.not_mem_nil, or_false] at h
  rcases h with ((rfl | rfl) | h) | h
  · exact ⟨.bare _, hday.tail List.mem_cons_self, folded_own _ (by decide)⟩
  · exact ⟨.bare _, hvalue.trans (holds_input _ _ _), folded_own _ (by decide)⟩
  · split at h
    · rename_i hratio
      obtain rfl := List.mem_singleton.1 h
      rw [hratio] at hvalue
      exact ⟨.bare _, hvalue.trans (holds_denominator _ _), folded_own _ (by decide)⟩
    · cases h
  · exact ⟨.quoted w, (holds_comparison body fact m ds h).tail List.mem_cons_self, rfl⟩

/-- Every dimension of the grid is named somewhere in the statement. -/
theorem refers_grid {d : String} (h : d ∈ q.dimensions) :
    (assemble body fact m ds q).Refers "grid" (.quoted d) :=
  (holds_comparison body fact m ds h).tail (List.mem_cons_of_mem _ List.mem_cons_self)

end

/-- **References to the facts are unambiguous** exactly when no two of their columns have one
name. -/
theorem unambiguous_facts_iff (body : Body) (fact : FactTable) (m : Metric) (ds : List Dimension)
    (q : MetricQuery) :
    (assemble body fact m ds q).Unambiguous "facts" (inputColumns m ++ q.dimensions) ↔
      (inputColumns m ++ q.dimensions).Nodup := by
  rw [List.nodup_iff_count_le_one]
  refine ⟨fun h w => ?_, fun h x _ => h _⟩
  by_cases hw : w ∈ inputColumns m ++ q.dimensions
  · obtain ⟨x, hx, rfl⟩ := refers_facts body fact m ds hw
    exact h x hx
  · rw [List.count_eq_zero_of_not_mem hw]
    exact Nat.zero_le 1

/-- A list without repetitions behind another has none of its elements. -/
theorem nodup_append_iff {own more : List String} (ho : own.Nodup) (hm : more.Nodup) :
    (own ++ more).Nodup ↔ ∀ w ∈ more, w ∉ own := by
  rw [List.nodup_append_comm, List.nodup_append']
  exact ⟨fun h _ hw => h.2.2 hw, fun h => ⟨hm, ho, fun _ hw => h _ hw⟩⟩

/-- **So are references to the grid.** -/
theorem unambiguous_grid_iff (body : Body) (fact : FactTable) (m : Metric) (ds : List Dimension)
    {q : MetricQuery} (hq : q.dimensions.Nodup) :
    (assemble body fact m ds q).Unambiguous "grid" (Grain.columns ++ q.dimensions) ↔
      (Grain.columns ++ q.dimensions).Nodup := by
  refine ⟨fun h => (nodup_append_iff (by decide) hq).2 fun d hd hcolumn => ?_, fun h x _ => ?_⟩
  -- A dimension that is named like a column of the days counts twice, and the statement names it.
  · have hcount := h _ (refers_grid body fact m ds hd)
    have hgrid := List.count_pos_iff.2 hcolumn
    have hdimension := List.count_pos_iff.2 hd
    rw [List.count_append] at hcount
    change Grain.columns.count d + q.dimensions.count d ≤ 1 at hcount
    omega
  · exact List.nodup_iff_count_le_one.1 h _

/-! ### All columns of a statement -/

/-- The tables of facts and of the grid are found under their names. -/
theorem columnsOf?_assemble (body : Body) (fact : FactTable) (m : Metric) (ds : List Dimension)
    (q : MetricQuery) :
    (assemble body fact m ds q).columnsOf? "facts" = some (factsTable fact m ds q).columns ∧
      (assemble body fact m ds q).columnsOf? "grid" = some (gridTable q.dimensions).columns := by
  have hspine : (spineTable body).name.folded = "spine" := folded_own "spine" (by decide)
  have hfacts : (factsTable fact m ds q).name.folded = "facts" := folded_own "facts" (by decide)
  have hgrid : (gridTable q.dimensions).name.folded = "grid" := folded_own "grid" (by decide)
  simp [assemble, Query.columnsOf?, List.find?, hspine, hfacts, hgrid]

/-- The final block names no column twice unless the metric or a dimension is named like the period,
or a dimension like the metric. -/
theorem nodup_columns_iff {m : Metric} {q : MetricQuery} (hq : q.dimensions.Nodup) :
    (finalSelect m q).columns.Nodup ↔
      m.name ≠ q.grain.column ∧ ∀ d ∈ q.dimensions, d ≠ q.grain.column ∧ d ≠ m.name := by
  have hends : (q.grain.column :: q.dimensions ++ [m.name]).Perm
      ([q.grain.column, m.name] ++ q.dimensions) :=
    .cons _ List.perm_append_comm
  rw [columns_finalSelect, hends.nodup_iff]
  by_cases hm : m.name = q.grain.column
  · simp [hm]
  · rw [nodup_append_iff (by simpa using Ne.symm hm) hq]
    simp [hm]

/-- The data of a response are the rows as they are exactly when no row loses a column. -/
theorem get?_data_iff {t : ResultTable} {columns : List String} (hne : t.rows ≠ [])
    (hrows : ∀ r ∈ t.rows, r.columns = columns ∧ columns.length ≤ r.cells.length) :
    (Response.rows t).toJson.get? "data" = some (.list (t.rows.map Row.toJson)) ↔
      columns.Nodup := by
  have hentry : (Response.rows t).toJson.get? "data" =
      some (.list (t.rows.map fun r => .object (Json.lastOfEach r.entries))) := by
    simp [Response.toJson, ResultTable.entries, Json.get?]
  rw [hentry, Option.some.injEq, Json.list.injEq, List.map_inj_left]
  constructor
  · intro h
    obtain ⟨r, hr⟩ := List.exists_mem_of_ne_nil _ hne
    obtain ⟨rfl, hcells⟩ := hrows r hr
    exact (Row.lastOfEach_entries_iff hcells).1 (Json.object.inj (h r hr))
  · intro h r hr
    obtain ⟨rfl, hcells⟩ := hrows r hr
    exact congrArg Json.object ((Row.lastOfEach_entries_iff hcells).2 h)

/-- **No two columns of a statement have one name exactly when the names of its query keep clear of
the compiler's and of each other.**  The columns of the facts and those of the grid are distinct,
and references to them are unambiguous, when no selected dimension is named like a column that the
compiler puts there; the columns of the answer are distinct, and none is lost in the data of a
response, when the period, the dimensions and the metric have different names. -/
theorem columns_distinct_iff {c : Catalog} {s : Spine} {k : Compiler} {v : ValidQuery c s}
    {sql : String} (h : k.compile v = .ok sql) :
    ∃ tree m facts grid, k.statement v.query = .ok tree ∧ sql = tree.render ∧
      k.catalog.metric v.query.metric = .ok m ∧
      tree.columnsOf? "facts" = some facts ∧ tree.columnsOf? "grid" = some grid ∧
      (facts.Nodup ↔ ∀ d ∈ v.query.dimensions, d ∉ inputColumns m) ∧
      (tree.Unambiguous "facts" facts ↔ facts.Nodup) ∧
      (grid.Nodup ↔ ∀ d ∈ v.query.dimensions, d ∉ Grain.columns) ∧
      (tree.Unambiguous "grid" grid ↔ grid.Nodup) ∧
      (tree.columns.Nodup ↔ m.name ≠ v.query.grain.column ∧
        ∀ d ∈ v.query.dimensions, d ≠ v.query.grain.column ∧ d ≠ m.name) ∧
      ∀ t : ResultTable, t.rows ≠ [] →
        (∀ r ∈ t.rows, r.columns = tree.columns ∧ tree.columns.length ≤ r.cells.length) →
        ((Response.rows t).toJson.get? "data" = some (.list (t.rows.map Row.toJson)) ↔
          tree.columns.Nodup) := by
  obtain ⟨tree, htree, rfl⟩ := compile_eq_ok.1 h
  obtain ⟨m, ds, rows, hparts, rfl⟩ := statement_eq_ok.1 htree
  have hdimensions := v.nodup_dimensions
  have hspelled := k.catalog.metric_spelled (Catalog.mem_of_metric hparts.metric).1
  obtain ⟨hfacts, hgrid⟩ := columnsOf?_assemble (spineBody k.source rows v.query.start v.query.stop)
    k.catalog.fact m ds v.query
  rw [columns_factsTable hspelled] at hfacts
  rw [columns_gridTable] at hgrid
  exact ⟨_, m, _, _, htree, rfl, hparts.metric, hfacts, hgrid,
    nodup_append_iff (nodup_inputColumns m) hdimensions,
    unambiguous_facts_iff .., nodup_append_iff (by decide) hdimensions,
    unambiguous_grid_iff _ _ _ _ hdimensions, nodup_columns_iff hdimensions,
    fun t hne hrows => get?_data_iff hne hrows⟩

end Compiler

namespace Visits

/-- A name of the compiler's, and the name of the metric. -/
def takenNames : List String := ["date_day", "visits"]

/-- Visits that may be split by dimensions of these names. -/
def clashingCatalog : Catalog :=
  ⟨⟨"visits", "Visits", "", ⟨"visits", "visited_on"⟩,
    [{ metric with allowedDimensions := takenNames }],
    takenNames.map fun d => ⟨d, "", "", d, none, [], []⟩⟩, by rfl⟩

/-- The visits split by both. -/
def clashing : ValidQuery clashingCatalog spine :=
  ⟨⟨"visits", takenNames, .empty, .day, newYear, newYear⟩,
    ⟨"visits", takenNames, .empty, .day, newYear, newYear⟩, rfl, rfl⟩

end Visits

namespace Compiler

/-- The columns of the visits to one city are distinct.  Those of the visits split by taken names
are not: references to them are ambiguous, and a row of nulls loses columns in a response. -/
theorem columns_distinct_iff_visits :
    (∃ tree facts grid, (inlined Visits.catalog Visits.spine).statement (Visits.query "Lyon") =
        .ok tree ∧ tree.columnsOf? "facts" = some facts ∧ tree.columnsOf? "grid" = some grid ∧
        facts.Nodup ∧ grid.Nodup ∧ tree.columns.Nodup) ∧
      ∃ tree facts grid, (inlined Visits.clashingCatalog Visits.spine).statement
          Visits.clashing.query = .ok tree ∧
        tree.columnsOf? "facts" = some facts ∧ tree.columnsOf? "grid" = some grid ∧
        ¬ tree.Unambiguous "facts" facts ∧ ¬ tree.Unambiguous "grid" grid ∧
        ∃ t : ResultTable, t.rows = [⟨tree.columns, tree.columns.map fun _ => .null⟩] ∧
          (Response.rows t).toJson.get? "data" ≠ some (.list (t.rows.map Row.toJson)) := by
  have hlyon : ∃ sql, (inlined Visits.catalog Visits.spine).compile (Visits.valid "Lyon") =
      .ok sql :=
    ⟨_, compile_eq_ok.2 ⟨_, statement_eq_ok.2 ⟨_, _, _, parts_visits "Lyon", rfl⟩, rfl⟩⟩
  have hclashing : ∃ sql, (inlined Visits.clashingCatalog Visits.spine).compile Visits.clashing =
      .ok sql :=
    ⟨_, compile_eq_ok.2 ⟨_, statement_eq_ok.2
      ⟨_, Visits.clashingCatalog.dimensions, _, ⟨rfl, rfl, rfl⟩, rfl⟩, rfl⟩⟩
  obtain ⟨sql, hsql⟩ := hlyon
  obtain ⟨tree, m, facts, grid, htree, -, hm, hfacts, hgrid, hf, -, hg, -, hcolumns, -⟩ :=
    columns_distinct_iff hsql
  obtain ⟨sql', hsql'⟩ := hclashing
  obtain ⟨tree', m', facts', grid', htree', -, hm', hfacts', hgrid', hf', ha', hg', hb', hcolumns',
    hdata⟩ := columns_distinct_iff hsql'
  cases hm
  cases hm'
  refine ⟨⟨tree, facts, grid, htree, hfacts, hgrid, hf.2 (by decide), hg.2 (by decide),
    hcolumns.2 (by decide)⟩, tree', facts', grid', htree', hfacts', hgrid', ?_, ?_,
    ⟨"visits", _, sql'⟩, rfl, ?_⟩
  · rw [ha', hf']
    decide
  · rw [hb', hg']
    decide
  · rw [Ne, hdata _ (List.cons_ne_nil _ _) (List.forall_mem_singleton.2 ⟨rfl, by simp⟩), hcolumns']
    decide

end Compiler

end SemanticLayer
