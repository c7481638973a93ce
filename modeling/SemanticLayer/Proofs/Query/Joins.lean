import SemanticLayer.Proofs.Query.FactRows
import SemanticLayer.Proofs.Sql.Mentions

/-
# Joins of compiled statements

The dimensions of a query may lie in lookup tables.  A dimension tells the way
to its table: the table, the key among the facts and the key there.  The block
of facts takes each way once, whatever the number of dimensions at its end and
wherever the query names them (`Compiler.JoinsOnce`):

| dimension | its column |
| --- | --- |
| without a way | its source column of `f`, the fact table |
| at the end of the `n`-th way | its source column of `jn` |

A dimension that the query only filters by is reached and tested in the block of
facts, and stands nowhere else (`Compiler.joins_shared`).
-/

namespace SemanticLayer

open Sql

namespace Sql

/-- The table of a name that the `WITH` clause of a query defines. -/
def Query.tableOf? (table : String) : Query → Option TableDef
  | .mk (some (.mk _ tables)) _ _ _ _ _ => tables.find? fun t => t.name.folded == table
  | _ => none

/-- The block that a defined table is, if it is one. -/
def TableDef.block? : TableDef → Option Select
  | .mk _ _ q _ => q.block?

/-- The terms behind `GROUP BY`. -/
def Select.groupTerms : Select → List Expr
  | .mk _ _ _ _ _ _ terms _ _ _ => terms

/-- The terms behind `ORDER BY`. -/
def Query.orderTerms : Query → List Expr
  | .mk _ _ order _ _ _ => order.map Prod.fst

end Sql

namespace Compiler

/-! ### What is promised -/

/-- A dimension of the catalog that a query selects or filters by. -/
def Named (c : Catalog) (q : MetricQuery) (d : Dimension) : Prop :=
  d ∈ c.dimensions ∧ (d.name ∈ q.dimensions ∨ d.name ∈ q.filters.keys)

/-- The block of facts takes every way to a named dimension once, and finds every named dimension
at the end of its own way. -/
structure JoinsOnce (c : Catalog) (m : Metric) (q : MetricQuery) (ways : List Join)
    (columnAs : String → Expr) (facts : Select) : Prop where
  /-- The ways to named dimensions, and no others. -/
  mem_iff : ∀ j, j ∈ ways ↔ ∃ d, Named c q d ∧ d.join = some j
  /-- No way is listed twice. -/
  nodup : ways.Nodup
  /-- Their ends are called `j1`, `j2` and so on. -/
  aliases : (ways.map fun j => tableAlias ways (some j)) =
    (List.range ways.length).map fun i => "j" ++ toString (i + 1)
  /-- These names are different, and none is that of the fact table. -/
  apart : ("f" :: ways.map fun j => tableAlias ways (some j)).Nodup
  /-- Two dimensions lie in one table when there is one way to them. -/
  shared : ∀ d d', Named c q d → Named c q d' →
    (tableAlias ways d.join = tableAlias ways d'.join ↔ d.join = d'.join)
  /-- A dimension lies in the fact table when there is no way to it. -/
  unjoined : ∀ d, Named c q d → (tableAlias ways d.join = "f" ↔ d.join = none)
  /-- Every name that the query mentions is that of a dimension. -/
  found : ∀ name, name ∈ q.dimensions ∨ name ∈ q.filters.keys → ∃ d, Named c q d ∧ d.name = name
  /-- The column of a name is the source column of its dimension. -/
  columns : ∀ d, Named c q d →
    columnAs d.name = column (tableAlias ways d.join) d.sourceColumn
  /-- The block has one join for each way, one item for each selected dimension and one condition
  for each filter. -/
  block : facts = selectFrom
    (inputItems c.fact m ++ q.dimensions.map fun name => .aliased (columnAs name) (.quoted name))
    [.mk (.table (tableName c.fact.table) (some ⟨.bare "f", []⟩)) (ways.map (lookupJoin ways))]
    (some (conjunction (inRange (factDate c.fact) q.start q.stop)
      (q.filters.entries.map fun (name, values) => filterCondition (columnAs name) values)))

/-! ### Ways and their names -/

section

variable {ways : List Join}

/-- The ways are called in their order. -/
theorem map_tableAlias (h : ways.Nodup) :
    (ways.map fun j => tableAlias ways (some j)) =
      (List.range ways.length).map fun i => "j" ++ toString (i + 1) := by
  refine List.ext_getElem (by simp) fun i hi _ => ?_
  rw [List.length_map] at hi
  rw [List.getElem_map, List.getElem_map, List.getElem_range, tableAlias, h.idxOf_getElem]

theorem nodup_aliases (h : ways.Nodup) :
    ("f" :: ways.map fun j => tableAlias ways (some j)).Nodup := by
  refine List.nodup_cons.2 ⟨fun hf => ?_, h.map_on fun j hj j' _ heq => (tableAlias_inj hj).1 heq⟩
  obtain ⟨j, -, hj⟩ := List.mem_map.1 hf
  exact tableAlias_ne ways j hj

theorem tableAlias_eq_iff {j : Option Join} : tableAlias ways j = "f" ↔ j = none := by
  cases j with
  | none => exact ⟨fun _ => rfl, fun _ => rfl⟩
  | some j => exact ⟨fun h => absurd h (tableAlias_ne ways j), nofun⟩

/-- **Two dimensions have one name for their table exactly when there is one way to them.** -/
theorem tableAlias_eq_tableAlias_iff {j j' : Option Join} (hj : ∀ w, j = some w → w ∈ ways) :
    tableAlias ways j = tableAlias ways j' ↔ j = j' := by
  cases j with
  | none => rw [eq_comm, eq_comm (a := none)]; exact tableAlias_eq_iff
  | some w =>
    cases j' with
    | none => exact ⟨fun h => absurd h (tableAlias_ne ways w), nofun⟩
    | some w' => rw [tableAlias_inj (hj w rfl), Option.some.injEq]

end

/-! ### The dimensions that are looked up -/

section

variable {k : Compiler} {q : MetricQuery} {m : Metric} {ds : List Dimension} {rows : List DayRow}

/-- The names that are looked up are those that the query selects or filters by. -/
theorem mem_referenced_iff {name : String} :
    name ∈ referenced q ↔ name ∈ q.dimensions ∨ name ∈ q.filters.keys := by
  refine ⟨fun h => ?_, fun h => h.elim mem_referenced_dimensions mem_referenced_filters⟩
  exact (List.mem_append.1 h).imp_right fun hkey => (List.mem_filter.1 hkey).1

/-- **The dimensions that are found are the named ones.** -/
theorem Parts.mem_iff_named (h : k.Parts q m ds rows) {d : Dimension} :
    d ∈ ds ↔ Named k.catalog q d := by
  constructor
  · intro hd
    obtain ⟨name, hname, hfound⟩ := (mem_of_map_eq_ok h.dimensions).1 hd
    obtain ⟨hmem, rfl⟩ := Catalog.mem_of_dimension hfound
    exact ⟨hmem, mem_referenced_iff.1 hname⟩
  · rintro ⟨hmem, hname⟩
    exact (mem_of_map_eq_ok h.dimensions).2
      ⟨d.name, mem_referenced_iff.2 hname, Catalog.dimension_eq_ok_iff.2 ⟨hmem, rfl⟩⟩

/-- **The column of a named dimension is its own,** because no other dimension has its name. -/
theorem Parts.columnOf_eq (h : k.Parts q m ds rows) {d : Dimension} (hd : Named k.catalog q d) :
    columnOf ds d.name = dimensionColumn (joinsOf ds) d := by
  obtain ⟨e, he, hname, hfind⟩ := h.find (mem_referenced_iff.2 hd.2)
  have hsame : e = d := by
    have heq := Catalog.dimension_eq_ok_iff.2 ⟨hd.1, hname.symm⟩
    rw [Catalog.dimension_eq_ok_iff.2 ⟨he, rfl⟩] at heq
    exact Except.ok.inj heq
  rw [columnOf, hfind, hsame]

theorem mem_joinsOf {j : Join} : j ∈ joinsOf ds ↔ ∃ d ∈ ds, d.join = some j := by
  rw [joinsOf, mem_firstOccurrences, List.mem_filterMap]

/-- **The block of facts keeps its promise.** -/
theorem Parts.joinsOnce (h : k.Parts q m ds rows) {facts : Select}
    (hfacts : (factsTable k.catalog.fact m ds q).block? = some facts) :
    JoinsOnce k.catalog m q (joinsOf ds) (columnOf ds) facts := by
  have hnodup : (joinsOf ds).Nodup := nodup_firstOccurrences _
  refine ⟨fun j => ?_, hnodup, map_tableAlias hnodup, nodup_aliases hnodup, fun d d' hd _ => ?_,
    fun d _ => tableAlias_eq_iff, fun name hname => ?_, fun d hd => h.columnOf_eq hd, ?_⟩
  · simp only [mem_joinsOf, h.mem_iff_named]
  · refine tableAlias_eq_tableAlias_iff fun j hj => mem_joinsOf.2 ⟨d, h.mem_iff_named.2 hd, hj⟩
  · obtain ⟨d, hd, rfl, -⟩ := h.find (mem_referenced_iff.2 hname)
    exact ⟨d, ⟨hd, hname⟩, rfl⟩
  · exact (Option.some.inj hfacts).symm

end

/-! ### Dimensions that are only filtered by -/

section

variable {name : String} {dimensions : List String}

theorem avoids_conjunction {first : Expr} {more : List Expr} :
    (Node.expr (conjunction first more)).Avoids name ↔
      ∀ e ∈ first :: more, (Node.expr e).Avoids name := by
  induction more generalizing first with
  | nil => simp [conjunction]
  | cons next more ih =>
    have hstep : conjunction first (next :: more) =
        conjunction (.binary first "AND" next) more := rfl
    rw [hstep, ih]
    simp [and_assoc]

theorem quoted_inj {a b : String} : Name.quoted a = Name.quoted b ↔ a = b :=
  ⟨fun h => congrArg Name.value h, congrArg _⟩

theorem avoids_quotedColumn {table column : String} :
    (Node.expr (Compiler.column table column)).Avoids name ↔ column ≠ name := by
  simp [Compiler.column, quoted_inj]

theorem avoids_plainColumn {table column : String} :
    (Node.expr (plainColumn table column)).Avoids name := by
  simp [plainColumn, Name.bare, Name.quoted]

theorem avoids_combinations (h : ∀ d ∈ dimensions, d ≠ name) :
    (Node.body (combinations dimensions)).Avoids name := by
  simpa [combinations, ofSelect, selectFrom, only, quoted_inj] using h

/-- **The grid has only the selected dimensions.** -/
theorem avoids_gridTable (h : ∀ d ∈ dimensions, d ≠ name) :
    (Node.tableDef (gridTable dimensions)).Avoids name := by
  have hdays : ∀ i ∈ Grain.columns.map fun c => Item.expr (plainColumn "spine" c),
      (Node.item i).Avoids name :=
    List.forall_mem_map.2 fun c _ => Node.avoids_item.2 avoids_plainColumn
  have hsplit : ∀ i ∈ dimensions.map fun d => Item.expr (column "dims" d),
      (Node.item i).Avoids name :=
    List.forall_mem_map.2 fun d hd => Node.avoids_item.2 (avoids_quotedColumn.2 (h d hd))
  unfold gridTable
  split
  · refine Node.avoids_tableDef.2 (Node.avoids_query.2 (Node.avoids_body.2
      (Node.avoids_select.2 ⟨nofun, hdays, by simp [only], nofun⟩)))
  · refine Node.avoids_tableDef.2 (Node.avoids_query.2 (Node.avoids_body.2
      (Node.avoids_select.2 ⟨nofun, List.forall_mem_append.2 ⟨hdays, hsplit⟩, ?_, nofun⟩)))
    simpa using avoids_combinations h

end

section

variable {q : MetricQuery} {name : String}

/-- **The final block joins the facts to the grid by the selected dimensions.** -/
theorem avoids_gridCondition (h : ∀ d ∈ q.dimensions, d ≠ name) :
    (Node.expr (gridCondition q)).Avoids name := by
  refine avoids_conjunction.2 (List.forall_mem_cons.2 ⟨?_, List.forall_mem_map.2 fun d hd => ?_⟩)
  · exact Node.avoids_binary.2 ⟨avoids_plainColumn, avoids_plainColumn⟩
  · exact Node.avoids_distinct.2 ⟨avoids_quotedColumn.2 (h d hd), avoids_quotedColumn.2 (h d hd)⟩

/-- **It groups and orders by them.** -/
theorem avoids_groupTerms (h : ∀ d ∈ q.dimensions, d ≠ name) :
    ∀ e ∈ groupTerms q, (Node.expr e).Avoids name :=
  List.forall_mem_cons.2 ⟨avoids_plainColumn,
    List.forall_mem_map.2 fun d hd => avoids_quotedColumn.2 (h d hd)⟩

/-- **No item of the facts is called like a dimension that is not selected.** -/
theorem not_mem_factItems {fact : FactTable} {m : Metric} {columnAs : String → Expr}
    (h : ∀ d ∈ q.dimensions, d ≠ name) (e : Expr) :
    .aliased e (.quoted name) ∉ inputItems fact m ++
      q.dimensions.map fun d => Item.aliased (columnAs d) (.quoted d) := by
  intro hmem
  rcases List.mem_append.1 hmem with hmem | hmem
  · obtain ⟨_, w, heq⟩ := exists_bare_of_mem_inputItems hmem
    exact absurd (congrArg Name.quote (Item.aliased.inj heq).2) nofun
  · obtain ⟨d, hd, heq⟩ := List.mem_map.1 hmem
    exact h d hd (quoted_inj.1 (Item.aliased.inj heq).2)

end

/-! ### Statements -/

/-- The tables of facts and of the grid are found under their names. -/
theorem tableOf?_assemble (body : Body) (fact : FactTable) (m : Metric) (ds : List Dimension)
    (q : MetricQuery) :
    (assemble body fact m ds q).tableOf? "facts" = some (factsTable fact m ds q) ∧
      (assemble body fact m ds q).tableOf? "grid" = some (gridTable q.dimensions) := by
  have hspine : (spineTable body).name.folded = "spine" := folded_own "spine" (by decide)
  have hfacts : (factsTable fact m ds q).name.folded = "facts" := folded_own "facts" (by decide)
  have hgrid : (gridTable q.dimensions).name.folded = "grid" := folded_own "grid" (by decide)
  simp [assemble, Query.tableOf?, List.find?, hspine, hfacts, hgrid]

/-- A statement orders by what it groups by. -/
theorem orderTerms_assemble (body : Body) (fact : FactTable) (m : Metric) (ds : List Dimension)
    (q : MetricQuery) : (assemble body fact m ds q).orderTerms = groupTerms q := by
  rw [assemble, Query.orderTerms, List.map_map]
  exact List.map_id _

/-- **Joins are shared exactly.**  In the statement of a query, the block of facts takes each way to
a lookup table once, under a name of its own, and reads every selected and every filtered dimension
from its source column at the end of its way.  A dimension that is only filtered by is no item of
the facts; its name stands nowhere in the grid, in the join of the final block, or in the terms that
this block groups and orders by. -/
theorem joins_shared {c : Catalog} {s : Spine} {k : Compiler} {v : ValidQuery c s} {sql : String}
    (h : k.compile v = .ok sql) :
    ∃ tree m facts grid final ways columnAs,
      k.statement v.query = .ok tree ∧ sql = tree.render ∧
      k.catalog.metric v.query.metric = .ok m ∧
      (tree.tableOf? "facts").bind TableDef.block? = some facts ∧
      tree.tableOf? "grid" = some grid ∧ tree.block? = some final ∧
      JoinsOnce k.catalog m v.query ways columnAs facts ∧
      ∀ d, Named k.catalog v.query d → d.name ∉ v.query.dimensions →
        (∀ e, .aliased e (.quoted d.name) ∉ facts.items) ∧
        (Node.tableDef grid).Avoids d.name ∧
        (∀ x ∈ final.sources, (Node.source x).Avoids d.name) ∧
        ∀ e ∈ final.groupTerms ++ tree.orderTerms, (Node.expr e).Avoids d.name := by
  obtain ⟨tree, htree, rfl⟩ := compile_eq_ok.1 h
  obtain ⟨m, ds, rows, hparts, rfl⟩ := statement_eq_ok.1 htree
  obtain ⟨hfacts, hgrid⟩ := tableOf?_assemble (spineBody k.source rows v.query.start v.query.stop)
    k.catalog.fact m ds v.query
  have hjoins := hparts.joinsOnce rfl
  refine ⟨_, m, _, _, finalSelect m v.query, _, _, htree, rfl, hparts.metric, ?_, hgrid, rfl,
    hjoins, fun d _ hfiltered => ?_⟩
  · rw [hfacts]
    rfl
  · have hne : ∀ other ∈ v.query.dimensions, other ≠ d.name :=
      fun other hmem heq => hfiltered (heq ▸ hmem)
    have hterms := avoids_groupTerms hne
    refine ⟨fun e => ?_, avoids_gridTable hne, ?_, ?_⟩
    · rw [hjoins.block]
      exact not_mem_factItems hne e
    · refine List.forall_mem_singleton.2 (Node.avoids_source.2 ⟨Node.avoids_table,
        List.forall_mem_singleton.2 (Node.avoids_join.2 ⟨Node.avoids_table, ?_⟩)⟩)
      exact Node.avoids_on.2 (avoids_gridCondition hne)
    · rw [orderTerms_assemble]
      exact List.forall_mem_append.2 ⟨hterms, hterms⟩

end Compiler

namespace Visits

/-- The way from a visit to its city. -/
def wayToCity : Join := ⟨"cities", "city_id", "id"⟩

/-- Visits over channels, to cities and countries, which lie in one lookup table. -/
def joinedCatalog : Catalog :=
  ⟨⟨"visits", "Visits", "", ⟨"visits", "visited_on"⟩,
    [{ metric with allowedDimensions := ["channel", "city", "country"] }],
    [⟨"channel", "", "", "channel", none, [], []⟩,
      ⟨"city", "", "", "name", some wayToCity, [], []⟩,
      ⟨"country", "", "", "country", some wayToCity, [], []⟩]⟩, by rfl⟩

/-- The visits by channel and city, to the cities of one country. -/
def joined : ValidQuery joinedCatalog spine :=
  ⟨⟨"visits", ["channel", "city"], ⟨[("country", ["FR"])], List.pairwise_singleton _ _⟩, .day,
      newYear, newYear⟩,
    ⟨"visits", ["channel", "city"], ⟨[("country", ["FR"])], List.pairwise_singleton _ _⟩, .day,
      newYear, newYear⟩, rfl, rfl⟩

end Visits

namespace Compiler

/-- The cities and their country are reached by one join, and the country is no item of the
facts. -/
theorem joins_shared_visits :
    (∃ sql, (inlined Visits.joinedCatalog Visits.spine).compile Visits.joined = .ok sql) ∧
    ∃ tree facts ways, (inlined Visits.joinedCatalog Visits.spine).statement Visits.joined.query =
        .ok tree ∧
      (tree.tableOf? "facts").bind TableDef.block? = some facts ∧
      facts.sources = [.mk (.table (tableName "visits") (some ⟨.bare "f", []⟩))
        (ways.map (lookupJoin ways))] ∧
      ways = [Visits.wayToCity] ∧ ∀ e, .aliased e (.quoted "country") ∉ facts.items := by
  have hstatement : ∃ tree, (inlined Visits.joinedCatalog Visits.spine).statement
      Visits.joined.query = .ok tree := ⟨_, rfl⟩
  obtain ⟨tree, htree⟩ := hstatement
  have hsql : (inlined Visits.joinedCatalog Visits.spine).compile Visits.joined =
      .ok tree.render := compile_eq_ok.2 ⟨tree, htree, rfl⟩
  obtain ⟨tree', m, facts, grid, final, ways, columnAs, htree', -, -, hfacts, -, -, hjoins, honly⟩ :=
    joins_shared hsql
  have hmem : ∀ j, j ∈ ways ↔ j ∈ [Visits.wayToCity] := by
    intro j
    rw [hjoins.mem_iff, List.mem_singleton]
    constructor
    · rintro ⟨d, ⟨hd, -⟩, hj⟩
      rcases hd with _ | ⟨_, _ | ⟨_, _ | ⟨_, ⟨⟩⟩⟩⟩
      · cases hj
      · exact (Option.some.inj hj).symm
      · exact (Option.some.inj hj).symm
    · rintro rfl
      exact ⟨_, ⟨.tail _ (.head _), .inl (by decide)⟩, rfl⟩
  have hcountry : Named Visits.joinedCatalog Visits.joined.query
      ⟨"country", "", "", "country", some Visits.wayToCity, [], []⟩ :=
    ⟨.tail _ (.tail _ (.head _)), .inr (by decide)⟩
  refine ⟨⟨_, hsql⟩, tree', facts, ways, htree', hfacts, ?_, ?_, (honly _ hcountry (by decide)).1⟩
  · rw [hjoins.block]
    rfl
  · exact List.perm_singleton.1
      ((List.perm_ext_iff_of_nodup hjoins.nodup (List.nodup_singleton _)).2 hmem)

end Compiler

end SemanticLayer
