import SemanticLayer.Proofs.Calendar.DateText
import SemanticLayer.Proofs.Catalog.Identifiers
import SemanticLayer.Proofs.Query.Validity
import SemanticLayer.Proofs.Sql.Printing
import SemanticLayer.Query.Compiler

/-
# The lexemes of compiled statements

`Compiler.statementLexemes` lists the lexemes of the statement of a query, part
by part as `Compiler.assemble` puts its tree together, and
`Compiler.spells_statement` shows that the printed statement is spelled by
them.  The words among them form the vocabulary of the compiler:

| words | from |
| --- | --- |
| keywords and functions | the fixed text |
| names of the defined tables and their columns | the fixed text |
| `j1`, `j2`, … | the order of the joins |
| tables, columns, keys, metrics and dimensions | the catalog |
| parts of the name of the table of days | the compiler |
-/

namespace SemanticLayer.Compiler

open Sql

/-! ### The vocabulary -/

/-- The names that statements give to tables and columns. -/
def ownNames : List String :=
  ["spine", "facts", "grid", "dims", "f", "metric_input", "metric_denominator"] ++ Grain.columns

/-- The words of the statements of a compiler. -/
inductive Vocabulary (k : Compiler) : String → Prop where
  | keyword {w : String} (h : w ∈ fixedWords) : Vocabulary k w
  | own {w : String} (h : w ∈ ownNames) : Vocabulary k w
  | joined (n : Nat) : Vocabulary k ("j" ++ toString n)
  | catalog {w : String} (h : k.catalog.Mentions w) : Vocabulary k w
  | spineTable {name w : String} (h : k.source = .table name) (hw : TablePart name w) :
    Vocabulary k w

/-- The days come from the statement or from a table whose name has been checked. -/
def Sourced (k : Compiler) : Prop := ∀ name, k.source = .table name → Identifier.tableOk name = true

theorem sourced_inlined (c : Catalog) (s : Spine) : (inlined c s).Sourced := nofun

/-- A table of days is taken when its name is made of identifiers. -/
theorem withSpineTable_eq_ok {k k' : Compiler} {name : String} :
    k.withSpineTable name = .ok k' ↔
      Identifier.tableOk name = true ∧ k' = { k with source := .table name } := by
  unfold withSpineTable
  split
  · rename_i hok
    exact ⟨fun h => ⟨hok, (Except.ok.inj h).symm⟩, fun h => congrArg _ h.2.symm⟩
  · rename_i hok
    exact ⟨nofun, fun h => absurd h.1 hok⟩

theorem sourced_withSpineTable {k k' : Compiler} {name : String}
    (h : k.withSpineTable name = .ok k') : k'.Sourced := by
  obtain ⟨hok, rfl⟩ := withSpineTable_eq_ok.1 h
  rintro _ ⟨⟩
  exact hok

/-! ### Lexemes -/

def columnLexemes (table column : String) : List Lexeme := pathLexemes [.bare table, .quoted column]

def plainColumnLexemes (table column : String) : List Lexeme :=
  pathLexemes [.bare table, .bare column]

/-- The path of the column of the dimension of a name. -/
def columnPath (ds : List Dimension) (name : String) : List Name :=
  match ds.find? fun d => d.name == name with
  | some d => [.bare (tableAlias (joinsOf ds) d.join), .quoted d.sourceColumn]
  | none => []

def conjunctionLexemes (first : List Lexeme) (more : List (List Lexeme)) : List Lexeme :=
  more.foldl (fun left right => binaryLexemes left right "AND") first

def inRangeLexemes (e : List Lexeme) (start stop : Date) : List Lexeme :=
  betweenLexemes e (dateLexemes start.iso) (dateLexemes stop.iso)

def spineBodyLexemes (source : SpineSource) (rows : List DayRow) (start stop : Date) :
    List Lexeme :=
  match source with
  | .inline => valuesLexemes (rows.map fun row => row.toList.map fun d => dateLexemes d.iso)
  | .table name =>
    selectLexemes false (spineColumns.map fun c => [c.lexeme])
      (some (tableLexemes (tableName name) none))
      (some (inRangeLexemes [Name.lexeme (.bare Grain.day.column)] start stop)) []

def spineTableLexemes (body : List Lexeme) : List Lexeme :=
  tableDefLexemes (Alias.lexemes ⟨.bare "spine", spineColumns⟩) body

def factDateLexemes (fact : FactTable) : List Lexeme :=
  castLexemes (columnLexemes "f" fact.dateColumn) ["DATE"]

def lookupJoinLexemes (joins : List Join) (join : Join) : List Lexeme :=
  let joined := tableAlias joins (some join)
  joinLexemes ["LEFT", " ", "JOIN", " "] (tableLexemes (tableName join.table) (some (.bare joined)))
    (some (binaryLexemes (columnLexemes "f" join.foreignKey)
      (columnLexemes joined join.primaryKey) "="))

def filterLexemes (e : List Lexeme) : List String → List Lexeme
  | [value] => binaryLexemes e [.value value] "="
  | values => inLexemes e (values.map fun value => [.value value])

def denominatorLexemes (m : Metric) : List (List Lexeme) :=
  match m.aggregation, m.denominatorColumn with
  | .ratio, some denominator =>
    [aliasedLexemes (columnLexemes "f" denominator) (.bare "metric_denominator")]
  | _, _ => []

/-- The items of the table of fact rows. -/
def factItemLexemes (fact : FactTable) (m : Metric) (ds : List Dimension) (q : MetricQuery) :
    List (List Lexeme) :=
  [aliasedLexemes (factDateLexemes fact) (.bare Grain.day.column),
    aliasedLexemes (columnLexemes "f" m.sourceColumn) (.bare "metric_input")] ++
    denominatorLexemes m ++
    q.dimensions.map fun d => aliasedLexemes (pathLexemes (columnPath ds d)) (.quoted d)

/-- The fact table with the lookup tables. -/
def factSourceLexemes (fact : FactTable) (ds : List Dimension) : List Lexeme :=
  tableLexemes (tableName fact.table) (some (.bare "f")) ++
    (joinsOf ds).flatMap (lookupJoinLexemes (joinsOf ds))

/-- The range and the filters. -/
def factConditionLexemes (fact : FactTable) (ds : List Dimension) (q : MetricQuery) : List Lexeme :=
  conjunctionLexemes (inRangeLexemes (factDateLexemes fact) q.start q.stop)
    (q.filters.entries.map fun f => filterLexemes (pathLexemes (columnPath ds f.1)) f.2)

def factsTableLexemes (fact : FactTable) (m : Metric) (ds : List Dimension) (q : MetricQuery) :
    List Lexeme :=
  tableDefLexemes (Alias.lexemes ⟨.bare "facts", []⟩)
    (selectLexemes false (factItemLexemes fact m ds q) (some (factSourceLexemes fact ds))
      (some (factConditionLexemes fact ds q)) [])

def combinationsLexemes (dimensions : List String) : List Lexeme :=
  unionLexemes
    (selectLexemes true (dimensions.map fun d => [Name.lexeme (.quoted d)])
      (some (tableLexemes [.bare "facts"] none)) none [])
    (selectLexemes false (dimensions.map fun d => aliasedLexemes (lits ["NULL"]) (.quoted d)) none
      (some (notExistLexemes (selectLexemes false [[.fixed (.number "1" false)]]
        (some (tableLexemes [.bare "facts"] none)) none []))) [])

def gridTableLexemes (dimensions : List String) : List Lexeme :=
  let days := Grain.columns.map (plainColumnLexemes "spine")
  tableDefLexemes (Alias.lexemes ⟨.bare "grid", []⟩)
    (if dimensions.isEmpty then
      selectLexemes false days (some (tableLexemes [.bare "spine"] none)) none []
    else
      selectLexemes false (days ++ dimensions.map (columnLexemes "dims"))
        (some (tableLexemes [.bare "spine"] none ++
          joinLexemes ["CROSS", " ", "JOIN", " "] (lits ["("] ++ combinationsLexemes dimensions ++
            lits [")", " ", "AS", " "] ++ [Name.lexeme (.bare "dims")]) none)) none [])

def groupTermLexemes (q : MetricQuery) : List (List Lexeme) :=
  plainColumnLexemes "grid" q.grain.column :: q.dimensions.map (columnLexemes "grid")

def gridConditionLexemes (q : MetricQuery) : List Lexeme :=
  conjunctionLexemes
    (binaryLexemes (plainColumnLexemes "facts" Grain.day.column)
      (plainColumnLexemes "grid" Grain.day.column) "=")
    (q.dimensions.map fun d => distinctLexemes (columnLexemes "facts" d) (columnLexemes "grid" d))

/-- The aggregate of an input and a denominator. -/
def aggregateLexemes (input denominator : List Lexeme) : Aggregation → List Lexeme
  | .sum => callLexemes "COALESCE" [callLexemes "SUM" [input], [.fixed (.number "0" false)]]
  | .avg => callLexemes "AVG" [input]
  | .count => callLexemes "COUNT" [input]
  | .ratio => binaryLexemes (castLexemes (callLexemes "SUM" [input]) ["DOUBLE", " ", "PRECISION"])
      (callLexemes "NULLIF" [callLexemes "SUM" [denominator], [.fixed (.number "0" false)]]) "/"

/-- The aggregate of a group, under the name of its metric. -/
def valueLexemes (m : Metric) : List Lexeme :=
  aliasedLexemes (aggregateLexemes (plainColumnLexemes "facts" "metric_input")
    (plainColumnLexemes "facts" "metric_denominator") m.aggregation) (.quoted m.name)

def finalSelectLexemes (m : Metric) (q : MetricQuery) : List Lexeme :=
  selectLexemes false (groupTermLexemes q ++ [valueLexemes m])
    (some (tableLexemes [.bare "grid"] none ++
      joinLexemes ["LEFT", " ", "JOIN", " "] (tableLexemes [.bare "facts"] none)
        (some (gridConditionLexemes q)))) none (groupTermLexemes q)

/-- The lexemes of a statement. -/
def statementLexemes (k : Compiler) (m : Metric) (ds : List Dimension) (rows : List DayRow)
    (q : MetricQuery) : List Lexeme :=
  queryLexemes
    [spineTableLexemes (spineBodyLexemes k.source rows q.start q.stop),
      factsTableLexemes k.catalog.fact m ds q, gridTableLexemes q.dimensions]
    (finalSelectLexemes m q) (groupTermLexemes q)

/-! ### Names -/

section

variable {k : Compiler}

theorem isWord_of_mem_ownNames : ∀ w ∈ ownNames, Lex.isWord w.toList = true := by decide

theorem spelled_own {w : String} (h : w ∈ ownNames) : (Name.bare w).Spelled k.Vocabulary :=
  ⟨.own h, .inl ⟨rfl, isWord_of_mem_ownNames w h⟩⟩

theorem spelled_joined (n : Nat) : (Name.bare ("j" ++ toString n)).Spelled k.Vocabulary := by
  refine ⟨.joined n, .inl ⟨rfl, ?_⟩⟩
  have hdigits : ∀ c ∈ (toString n).toList, Lex.isWordPart c = true := by
    intro c hc
    rw [Nat.toString_eq_ofList_toDigits, String.toList_ofList] at hc
    have hdigit := Nat.isDigit_of_mem_toDigits (by omega) (by omega) hc
    exact Identifier.isWordPart_of_isPart (by simp [Identifier.isPart, Char.isAlphanum, hdigit])
  change Lex.isWord ("j" ++ toString n).toList = true
  rw [String.toList_append]
  exact List.all_eq_true.2 hdigits

theorem spelled_quoted {w : String} (hV : k.Vocabulary w) (hok : Identifier.ok w.toList = true) :
    (Name.quoted w).Spelled k.Vocabulary :=
  ⟨hV, .inr ⟨rfl, Identifier.isWordPart_of_ok hok⟩⟩

theorem tableName_ne_nil (name : String) : tableName name ≠ [] := by
  simpa [tableName] using Identifier.parts_ne_nil name.toList

/-- The parts of a table name are spelled in quotes. -/
theorem spelled_tableName {name : String} (hV : ∀ w, TablePart name w → k.Vocabulary w)
    (hok : Identifier.tableOk name = true) : ∀ n ∈ tableName name, n.Spelled k.Vocabulary := by
  intro n hn
  obtain ⟨part, hpart, rfl⟩ := List.mem_map.1 hn
  refine spelled_quoted (hV _ ⟨part, hpart, rfl⟩) ?_
  rw [String.toList_ofList]
  exact List.all_eq_true.1 hok part hpart

/-! ### Columns and dates -/

theorem keywords_known : ∀ w ∈ fixedWords, k.Vocabulary w := fun _ => .keyword

theorem spells_column {table : String} (ht : (Name.bare table).Spelled k.Vocabulary) {w : String}
    (hV : k.Vocabulary w) (hok : Identifier.ok w.toList = true) :
    Spells k.Vocabulary (column table w).render (columnLexemes table w) := by
  have hpath : ∀ n ∈ [Name.bare table, .quoted w], n.Spelled k.Vocabulary :=
    List.forall_mem_cons.2 ⟨ht, List.forall_mem_singleton.2 (spelled_quoted hV hok)⟩
  exact (spells_path (List.cons_ne_nil _ _) hpath).of_eq (by rw [column, Expr.render_column])

theorem spells_plainColumn (table w : String) (ht : table ∈ ownNames) (hw : w ∈ ownNames) :
    Spells k.Vocabulary (plainColumn table w).render (plainColumnLexemes table w) := by
  have hpath : ∀ n ∈ [Name.bare table, .bare w], n.Spelled k.Vocabulary :=
    List.forall_mem_cons.2 ⟨spelled_own ht, List.forall_mem_singleton.2 (spelled_own hw)⟩
  exact (spells_path (List.cons_ne_nil _ _) hpath).of_eq (by rw [plainColumn, Expr.render_column])

theorem quiet_iso (d : Date) : ∀ c ∈ d.iso.toList, Lex.Quiet c := by
  intro c hc
  rcases Date.mem_iso hc with hc | rfl | rfl
  · exact Lex.quiet_of_isDigit hc
  · exact ⟨by decide, by decide⟩
  · exact ⟨by decide, by decide⟩

theorem spells_dateLiteral (d : Date) :
    Spells k.Vocabulary (dateLiteral d).render (dateLexemes d.iso) :=
  spells_date keywords_known (quiet_iso d)

theorem spells_inRange {e : Expr} {le : List Lexeme} (he : Spells k.Vocabulary e.render le)
    (start stop : Date) :
    Spells k.Vocabulary (inRange e start stop).render (inRangeLexemes le start stop) :=
  spells_between keywords_known he (spells_dateLiteral start) (spells_dateLiteral stop)

/-- A conjunction is spelled from its first condition on. -/
theorem spells_conjunction {first : Expr} {lfirst : List Lexeme} {more : List Expr}
    {lmore : List (List Lexeme)} (hfirst : Spells k.Vocabulary first.render lfirst)
    (hmore : List.Forall₂ (fun e ls => Spells k.Vocabulary e.render ls) more lmore) :
    Spells k.Vocabulary (conjunction first more).render (conjunctionLexemes lfirst lmore) := by
  induction hmore generalizing first lfirst with
  | nil => exact hfirst
  | cons he _ ih => exact ih (spells_binary keywords_known (by simp) hfirst he)

end

/-! ### What a statement is made of -/

/-- A metric, dimensions and days that a compiler finds for a query. -/
structure Parts (k : Compiler) (q : MetricQuery) (m : Metric) (ds : List Dimension)
    (rows : List DayRow) : Prop where
  metric : k.catalog.metric q.metric = .ok m
  dimensions : (referenced q).map k.catalog.dimension = ds.map .ok
  rows : k.spine.between q.start q.stop = .ok rows

/-- **A query has a statement when all of its parts are found.** -/
theorem statement_eq_ok {k : Compiler} {q : MetricQuery} {tree : Query} :
    k.statement q = .ok tree ↔ ∃ m ds rows, k.Parts q m ds rows ∧
      tree = assemble (spineBody k.source rows q.start q.stop) k.catalog.fact m ds q := by
  have hcatalog : ∀ {α : Type} {x : Except CatalogError α} {a : α},
      ofCatalog x = .ok a ↔ x = .ok a := by
    intro α x a
    cases x with
    | ok b => exact ⟨fun h => congrArg _ (Except.ok.inj h), fun h => congrArg _ (Except.ok.inj h)⟩
    | error e => exact ⟨nofun, nofun⟩
  have hdays : ∀ {rows}, k.daysOf q.start q.stop = .ok rows ↔
      k.spine.between q.start q.stop = .ok rows := by
    intro rows
    unfold daysOf
    split
    · rename_i h
      rw [h]
      exact ⟨fun h => congrArg _ (Except.ok.inj h), fun h => congrArg _ (Except.ok.inj h)⟩
    all_goals
      rename_i h
      rw [h]
      exact ⟨nofun, nofun⟩
  unfold statement
  constructor
  · intro h
    obtain ⟨m, hm, h⟩ := bind_eq_ok.1 h
    obtain ⟨ds, hds, h⟩ := bind_eq_ok.1 h
    obtain ⟨rows, hrows, h⟩ := bind_eq_ok.1 h
    exact ⟨m, ds, rows, ⟨hcatalog.1 hm, mapM_eq_ok.1 (hcatalog.1 hds), hdays.1 hrows⟩,
      (Except.ok.inj h).symm⟩
  · rintro ⟨m, ds, rows, hparts, rfl⟩
    exact bind_eq_ok.2 ⟨m, hcatalog.2 hparts.metric, bind_eq_ok.2 ⟨ds,
      hcatalog.2 (mapM_eq_ok.2 hparts.dimensions), bind_eq_ok.2 ⟨rows, hdays.2 hparts.rows, rfl⟩⟩⟩

theorem compile_eq_ok {k : Compiler} {c : Catalog} {s : Spine} {v : ValidQuery c s} {sql : String} :
    k.compile v = .ok sql ↔ ∃ tree, k.statement v.query = .ok tree ∧ sql = tree.render := by
  unfold compile
  cases k.statement v.query with
  | error e => exact ⟨nofun, nofun⟩
  | ok tree =>
    constructor
    · exact fun h => ⟨tree, rfl, (Except.ok.inj h).symm⟩
    · rintro ⟨_, ⟨⟩, rfl⟩
      rfl

theorem mem_referenced_dimensions {q : MetricQuery} {name : String} (h : name ∈ q.dimensions) :
    name ∈ referenced q := List.mem_append_left _ h

theorem mem_referenced_filters {q : MetricQuery} {name : String} (h : name ∈ q.filters.keys) :
    name ∈ referenced q := by
  unfold referenced
  by_cases hd : name ∈ q.dimensions
  · exact List.mem_append_left _ hd
  · exact List.mem_append_right _ (List.mem_filter.2 ⟨h, by simpa using hd⟩)

section

variable {k : Compiler} {q : MetricQuery} {m : Metric} {ds : List Dimension} {rows : List DayRow}

/-- The dimensions that are found are those of the catalog. -/
theorem Parts.mem_catalog (h : k.Parts q m ds rows) {d : Dimension} (hd : d ∈ ds) :
    d ∈ k.catalog.dimensions := by
  have hmem : Except.ok d ∈ (referenced q).map k.catalog.dimension :=
    h.dimensions ▸ List.mem_map_of_mem hd
  obtain ⟨name, _, hname⟩ := List.mem_map.1 hmem
  exact (Catalog.mem_of_dimension hname).1

/-- **Every name that a query mentions has a dimension.** -/
theorem Parts.find (h : k.Parts q m ds rows) {name : String} (hn : name ∈ referenced q) :
    ∃ d ∈ k.catalog.dimensions, d.name = name ∧
      ds.find? (fun d => d.name == name) = some d := by
  have hmem : k.catalog.dimension name ∈ ds.map Except.ok :=
    h.dimensions ▸ List.mem_map_of_mem hn
  obtain ⟨d, hd, hfound⟩ := List.mem_map.1 hmem
  have hname : d.name = name := (Catalog.mem_of_dimension hfound.symm).2
  cases hfind : ds.find? fun d => d.name == name with
  | none => exact absurd (beq_iff_eq.2 hname) (List.find?_eq_none.1 hfind d hd)
  | some e =>
    exact ⟨e, h.mem_catalog (List.mem_of_find?_eq_some hfind),
      by simpa using List.find?_some hfind, rfl⟩

/-- A join leads to a lookup table of the catalog. -/
theorem Parts.mem_joins (h : k.Parts q m ds rows) {j : Join} (hj : j ∈ joinsOf ds) :
    ∃ d ∈ k.catalog.dimensions, d.join = some j := by
  rw [joinsOf, mem_firstOccurrences] at hj
  obtain ⟨d, hd, hjoin⟩ := List.mem_filterMap.1 hj
  exact ⟨d, h.mem_catalog hd, hjoin⟩

theorem spelled_tableAlias (joins : List Join) (j : Option Join) :
    (Name.bare (tableAlias joins j)).Spelled k.Vocabulary := by
  cases j with
  | none => exact spelled_own (by simp [ownNames, tableAlias])
  | some j => exact spelled_joined _

/-- The column of a name that a query mentions. -/
theorem Parts.spells_columnOf (h : k.Parts q m ds rows) {name : String} (hn : name ∈ referenced q) :
    Spells k.Vocabulary (columnOf ds name).render (pathLexemes (columnPath ds name)) := by
  obtain ⟨d, hd, -, hfind⟩ := h.find hn
  unfold columnOf columnPath
  rw [hfind]
  exact spells_column (spelled_tableAlias _ _) (.catalog (.dimensionColumn hd))
    (k.catalog.dimension_spelled hd).sourceColumn

theorem Parts.spelled_dimension (h : k.Parts q m ds rows) {name : String}
    (hn : name ∈ referenced q) :
    k.Vocabulary name ∧ Identifier.ok name.toList = true := by
  obtain ⟨d, hd, rfl, -⟩ := h.find hn
  exact ⟨.catalog (.dimensionName hd), (k.catalog.dimension_spelled hd).name⟩

/-! ### The defined tables and the final block -/

/-- A block without groups. -/
theorem spells_selectFrom {items : List Item} {litems : List (List Lexeme)} {source : Option Source}
    {condition : Option Expr} {lsource lcondition : Option (List Lexeme)}
    (hitems : List.Forall₂ (fun i ls => Spells k.Vocabulary i.render ls) items litems)
    (hsource : Option.Rel (fun s ls => Spells k.Vocabulary s.render ls) source lsource)
    (hcondition : Option.Rel (fun e ls => Spells k.Vocabulary e.render ls) condition lcondition) :
    Spells k.Vocabulary (selectFrom items source.toList condition).render
      (selectLexemes false litems lsource lcondition []) :=
  spells_select keywords_known false hitems hsource hcondition .nil

theorem spells_ofSelect {s : Select} {ls : List Lexeme} (h : Spells k.Vocabulary s.render ls) :
    Spells k.Vocabulary (ofSelect s).render ls :=
  h.of_eq (by rw [ofSelect, Query.render_body, Body.render_select])

/-- A table without joins. -/
theorem spells_only {name : List Name} (hne : name ≠ [])
    (h : ∀ n ∈ name, n.Spelled k.Vocabulary) :
    Spells k.Vocabulary (only name).render (tableLexemes name none) := by
  refine (spells_table keywords_known hne h none nofun).of_eq ?_
  rw [only, Source.render_mk, Join.texts_eq_map]
  simp [String.join]

/-- A table of the statement, as a factor, as a whole source and as a name that is given. -/
theorem spells_own {w : String} (h : w ∈ ownNames) :
    Spells k.Vocabulary (Factor.table [.bare w] none).render (tableLexemes [.bare w] none) :=
  spells_table keywords_known (List.cons_ne_nil _ _) (List.forall_mem_singleton.2 (spelled_own h))
    none nofun

theorem spells_onlyOwn {w : String} (h : w ∈ ownNames) :
    Spells k.Vocabulary (only [.bare w]).render (tableLexemes [.bare w] none) :=
  spells_only (List.cons_ne_nil _ _) (List.forall_mem_singleton.2 (spelled_own h))

theorem spells_ownAlias {w : String} (h : w ∈ ownNames) :
    Spells k.Vocabulary (Alias.render ⟨.bare w, []⟩) (Alias.lexemes ⟨.bare w, []⟩) :=
  spells_alias keywords_known (spelled_own h) (List.forall_mem_nil _)

theorem spelled_spineColumns : ∀ n ∈ spineColumns, n.Spelled k.Vocabulary := by
  intro n hn
  obtain ⟨w, hw, rfl⟩ := List.mem_map.1 hn
  exact spelled_own (List.mem_append_right _ hw)

/-- A column by its name alone. -/
theorem spells_name {n : Name} (h : n.Spelled k.Vocabulary) :
    Spells k.Vocabulary (Expr.column [n]).render [n.lexeme] :=
  h.spells.of_eq (by rw [Expr.render_column, renderPath]; rfl)

theorem spells_spineBody (hk : k.Sourced) (rows : List DayRow) (start stop : Date) :
    Spells k.Vocabulary (spineBody k.source rows start stop).render
      (spineBodyLexemes k.source rows start stop) := by
  cases hs : k.source with
  | inline =>
    refine spells_values keywords_known fun row _ => spells_commas ?_
    exact forall₂_map_spells fun d _ => spells_dateLiteral d
  | table name =>
    have hitems : List.Forall₂ (fun (i : Item) ls => Spells k.Vocabulary i.render ls)
        (spineColumns.map fun c => .expr (.column [c])) (spineColumns.map fun c => [c.lexeme]) :=
      forall₂_map_spells fun c hc =>
        (spells_name (spelled_spineColumns c hc)).of_eq (by rw [Item.render_expr])
    have hsource := spells_only (tableName_ne_nil name)
      (spelled_tableName (fun w hw => .spineTable hs hw) (hk name hs))
    have hday : (Name.bare Grain.day.column).Spelled k.Vocabulary :=
      spelled_spineColumns _ (List.mem_map_of_mem List.mem_cons_self)
    have hcondition := spells_inRange (spells_name hday) start stop
    exact (spells_selectFrom hitems (.some hsource) (.some hcondition)).of_eq
      (by rw [spineBody, Body.render_select]; rfl)

theorem spells_spineTable {body : Body} {lb : List Lexeme}
    (hb : Spells k.Vocabulary body.render lb) :
    Spells k.Vocabulary (spineTable body).render (spineTableLexemes lb) := by
  refine spells_tableDef keywords_known (spells_alias keywords_known ?_ spelled_spineColumns)
    (hb.of_eq (Query.render_body body))
  exact spelled_own (by simp [ownNames])

theorem spelled_facts : (Name.bare "f").Spelled k.Vocabulary := spelled_own (by simp [ownNames])

theorem spells_factDate :
    Spells k.Vocabulary (factDate k.catalog.fact).render (factDateLexemes k.catalog.fact) :=
  spells_cast keywords_known .asDate
    (spells_column spelled_facts (.catalog .dateColumn) k.catalog.fact_spelled.2)

/-- The conditions of filters hold their values. -/
theorem spells_filterCondition {e : Expr} {le : List Lexeme} (he : Spells k.Vocabulary e.render le)
    (values : List String) :
    Spells k.Vocabulary (filterCondition e values).render (filterLexemes le values) := by
  have htext : ∀ value : String, Spells k.Vocabulary (Expr.text value).render [.value value] :=
    fun value => (spells_value value).of_eq (by rw [Expr.render_text])
  have hlist := fun values => spells_inList (V := k.Vocabulary) keywords_known he
    fun value (_ : value ∈ values) => htext value
  match values with
  | [] => exact hlist []
  | [value] => exact spells_binary keywords_known (by simp) he (htext value)
  | value :: next :: rest => exact hlist (value :: next :: rest)

theorem spells_lookupJoin (h : k.Parts q m ds rows) {j : Join} (hj : j ∈ joinsOf ds) :
    Spells k.Vocabulary (lookupJoin (joinsOf ds) j).render (lookupJoinLexemes (joinsOf ds) j) := by
  obtain ⟨d, hd, hjoin⟩ := h.mem_joins hj
  obtain ⟨htable, hforeign, hprimary⟩ := (k.catalog.dimension_spelled hd).join j hjoin
  have halias := spelled_tableAlias (k := k) (joinsOf ds) (some j)
  refine spells_leftJoin keywords_known (spells_table keywords_known (tableName_ne_nil _)
    (spelled_tableName (fun w hw => .catalog (.joinTable hd hjoin hw)) htable) (some _) ?_) ?_
  · rintro _ ⟨⟩
    exact halias
  · exact spells_binary keywords_known (by simp)
      (spells_column spelled_facts (.catalog (.foreignKey hd hjoin)) hforeign)
      (spells_column halias (.catalog (.primaryKey hd hjoin)) hprimary)

theorem spells_denominatorItem (h : k.Parts q m ds rows) :
    List.Forall₂ (fun i ls => Spells k.Vocabulary (Item.render i) ls) (denominatorItem m)
      (denominatorLexemes m) := by
  have hm := (Catalog.mem_of_metric h.metric).1
  cases hratio : m.aggregation with
  | ratio =>
    obtain ⟨column, hcolumn, hok⟩ := (k.catalog.metric_spelled hm).denominator hratio
    simp only [denominatorItem, denominatorLexemes, hratio, hcolumn]
    have hname : (Name.bare "metric_denominator").Spelled k.Vocabulary :=
      spelled_own (by simp [ownNames])
    exact .cons (spells_item keywords_known
      (spells_column spelled_facts (.catalog (.denominator hm hcolumn)) hok) hname) .nil
  | _ =>
    simp only [denominatorItem, denominatorLexemes, hratio]
    exact .nil

theorem spells_factItems (h : k.Parts q m ds rows) :
    List.Forall₂ (fun i ls => Spells k.Vocabulary (Item.render i) ls)
      ((.aliased (factDate k.catalog.fact) (.bare Grain.day.column) ::
        .aliased (column "f" m.sourceColumn) (.bare "metric_input") :: denominatorItem m) ++
        q.dimensions.map fun d => .aliased (columnOf ds d) (.quoted d))
      (factItemLexemes k.catalog.fact m ds q) := by
  have hm := (Catalog.mem_of_metric h.metric).1
  refine List.rel_append (.cons ?_ (.cons ?_ (spells_denominatorItem h)))
    (forall₂_map_spells fun d hd => ?_)
  · exact spells_item keywords_known spells_factDate
      (spelled_spineColumns _ (List.mem_map_of_mem List.mem_cons_self))
  · exact spells_item keywords_known (spells_column (spelled_own (by simp [ownNames]))
      (.catalog (.metricColumn hm)) (k.catalog.metric_spelled hm).sourceColumn)
      (spelled_own (by simp [ownNames]))
  · obtain ⟨hV, hok⟩ := h.spelled_dimension (mem_referenced_dimensions hd)
    exact spells_item keywords_known (h.spells_columnOf (mem_referenced_dimensions hd))
      (spelled_quoted hV hok)

/-- **The table of fact rows.** -/
theorem spells_factsTable (h : k.Parts q m ds rows) :
    Spells k.Vocabulary (factsTable k.catalog.fact m ds q).render
      (factsTableLexemes k.catalog.fact m ds q) := by
  have hfact := spells_table keywords_known (tableName_ne_nil k.catalog.fact.table)
    (spelled_tableName (fun w hw => .catalog (.factTable hw)) k.catalog.fact_spelled.1) (some (.bare "f"))
    (by rintro _ ⟨⟩; exact spelled_facts)
  have hsource := spells_source hfact (fun j hj => spells_lookupJoin h hj)
    (fun j _ => starts_join _ _ _)
  have hfilters : List.Forall₂ (fun (e : Expr) ls => Spells k.Vocabulary e.render ls)
      (q.filters.entries.map fun f => filterCondition (columnOf ds f.1) f.2)
      (q.filters.entries.map fun f => filterLexemes (pathLexemes (columnPath ds f.1)) f.2) :=
    forall₂_map_spells fun f hf => spells_filterCondition
      (h.spells_columnOf (mem_referenced_filters (List.mem_map_of_mem hf))) f.2
  have hcondition := spells_conjunction (spells_inRange spells_factDate q.start q.stop) hfilters
  have hblock := spells_ofSelect
    (spells_selectFrom (spells_factItems h) (.some hsource) (.some hcondition))
  exact spells_tableDef keywords_known (spells_ownAlias (by simp [ownNames])) hblock

theorem spells_number {digit : String} (hne : digit.toList ≠ [])
    (hd : digit.toList.all Char.isDigit = true) :
    Spells k.Vocabulary (Expr.number digit false).render [.fixed (.number digit false)] := by
  refine (Sql.spells_number hne (List.all_eq_true.1 hd)).of_eq ?_
  rw [Expr.render_number, String.append_empty]

theorem spells_combinations {dimensions : List String}
    (hd : ∀ d ∈ dimensions, (Name.quoted d).Spelled k.Vocabulary) :
    Spells k.Vocabulary (combinations dimensions).render (combinationsLexemes dimensions) := by
  have hfacts :
      Spells k.Vocabulary (only [.bare "facts"]).render (tableLexemes [.bare "facts"] none) :=
    spells_onlyOwn (by simp [ownNames])
  have hnames : List.Forall₂ (fun (i : Item) ls => Spells k.Vocabulary i.render ls)
      (dimensions.map fun d => .expr (.column [.quoted d]))
      (dimensions.map fun d => [Name.lexeme (.quoted d)]) :=
    forall₂_map_spells fun d h => (spells_name (hd d h)).of_eq (by rw [Item.render_expr])
  have hnulls : List.Forall₂ (fun (i : Item) ls => Spells k.Vocabulary i.render ls)
      (dimensions.map fun d => .aliased .null (.quoted d))
      (dimensions.map fun d => aliasedLexemes (lits ["NULL"]) (.quoted d)) :=
    forall₂_map_spells fun d h =>
      spells_item keywords_known (spells_null keywords_known) (hd d h)
  have hone : List.Forall₂ (fun (i : Item) ls => Spells k.Vocabulary i.render ls)
      [.expr (.number "1" false)] [[.fixed (.number "1" false)]] :=
    .cons ((spells_number (by decide) (by decide)).of_eq (by rw [Item.render_expr])) .nil
  have hany := spells_ofSelect (spells_selectFrom hone (.some hfacts) .none)
  have hdistinct := spells_select keywords_known true hnames (.some hfacts) .none .nil
  have hempty := spells_selectFrom hnulls .none (.some (spells_notExist keywords_known hany))
  exact spells_union keywords_known (hdistinct.of_eq (by rw [Body.render_select]; rfl))
    (hempty.of_eq (by rw [Body.render_select]; rfl))

theorem spells_gridTable {dimensions : List String}
    (hd : ∀ d ∈ dimensions, k.Vocabulary d ∧ Identifier.ok d.toList = true) :
    Spells k.Vocabulary (gridTable dimensions).render (gridTableLexemes dimensions) := by
  have hdays : List.Forall₂ (fun (i : Item) ls => Spells k.Vocabulary i.render ls)
      (Grain.columns.map fun c => .expr (plainColumn "spine" c))
      (Grain.columns.map (plainColumnLexemes "spine")) :=
    forall₂_map_spells fun c hc => (spells_plainColumn _ _ (by simp [ownNames])
      (List.mem_append_right _ hc)).of_eq (by rw [Item.render_expr])
  have hspine : Spells k.Vocabulary (Factor.table [.bare "spine"] none).render
      (tableLexemes [.bare "spine"] none) := spells_own (by simp [ownNames])
  unfold gridTable gridTableLexemes
  refine spells_tableDef keywords_known (spells_ownAlias (by simp [ownNames])) (spells_ofSelect ?_)
  by_cases hnone : dimensions.isEmpty = true
  · rw [if_pos hnone, if_pos hnone]
    have honly :
        Spells k.Vocabulary (only [.bare "spine"]).render (tableLexemes [.bare "spine"] none) :=
      spells_onlyOwn (by simp [ownNames])
    have hblock := spells_selectFrom hdays (.some honly) .none
    exact hblock
  · rw [if_neg hnone, if_neg hnone]
    have hdims : (Name.bare "dims").Spelled k.Vocabulary := spelled_own (by simp [ownNames])
    have hcolumns : List.Forall₂ (fun (i : Item) ls => Spells k.Vocabulary i.render ls)
        (dimensions.map fun d => .expr (column "dims" d)) (dimensions.map (columnLexemes "dims")) :=
      forall₂_map_spells fun d h => (spells_column hdims (hd d h).1 (hd d h).2).of_eq
        (by rw [Item.render_expr])
    have hcombinations := spells_combinations fun d h => spelled_quoted (hd d h).1 (hd d h).2
    have hderived := spells_derived keywords_known
      (hcombinations.of_eq (Query.render_body _)) hdims
    have hsource :=
      spells_source hspine (fun _ (_ : _ ∈ [()]) => spells_crossJoin keywords_known hderived)
      (fun _ _ => starts_join _ _ _)
    rw [List.flatMap_singleton] at hsource
    have hblock := spells_selectFrom (List.rel_append hdays hcolumns) (.some hsource) .none
    exact hblock

theorem spells_groupTerms (h : k.Parts q m ds rows) :
    List.Forall₂ (fun (e : Expr) ls => Spells k.Vocabulary e.render ls) (groupTerms q)
      (groupTermLexemes q) := by
  have hgrain : q.grain.column ∈ ownNames :=
    List.mem_append_right _ (List.mem_map_of_mem (by cases q.grain <;> simp [Grain.all]))
  refine .cons (spells_plainColumn _ _ (by simp [ownNames]) hgrain)
    (forall₂_map_spells fun d hd => ?_)
  obtain ⟨hV, hok⟩ := h.spelled_dimension (mem_referenced_dimensions hd)
  exact spells_column (spelled_own (by simp [ownNames])) hV hok

theorem spells_gridCondition (h : k.Parts q m ds rows) :
    Spells k.Vocabulary (gridCondition q).render (gridConditionLexemes q) := by
  have hday : Grain.day.column ∈ ownNames := List.mem_append_right _ List.mem_cons_self
  refine spells_conjunction (spells_binary keywords_known (by simp)
    (spells_plainColumn _ _ (by simp [ownNames]) hday)
    (spells_plainColumn _ _ (by simp [ownNames]) hday))
    (forall₂_map_spells fun d hd => ?_)
  obtain ⟨hV, hok⟩ := h.spelled_dimension (mem_referenced_dimensions hd)
  exact spells_distinct keywords_known (spells_column (spelled_own (by simp [ownNames])) hV hok)
    (spells_column (spelled_own (by simp [ownNames])) hV hok)

/-- **Every aggregate is spelled** as its input and denominator are. -/
theorem spells_aggregate {input denominator : Expr} {li ld : List Lexeme}
    (hi : Spells k.Vocabulary input.render li) (hd : Spells k.Vocabulary denominator.render ld)
    (a : Aggregation) :
    Spells k.Vocabulary (a.expr input denominator).render (aggregateLexemes li ld a) := by
  have hsum : ∀ {e : Expr} {le : List Lexeme}, Spells k.Vocabulary e.render le →
      Spells k.Vocabulary (Aggregation.expr.apply "SUM" [e]).render (callLexemes "SUM" [le]) :=
    fun he => spells_call keywords_known (by simp) (.cons he .nil)
  have hzero : Spells k.Vocabulary (Expr.number "0" false).render [.fixed (.number "0" false)] :=
    spells_number (by decide) (by decide)
  cases a with
  | sum => exact spells_call keywords_known (by simp) (.cons (hsum hi) (.cons hzero .nil))
  | avg => exact spells_call keywords_known (by simp) (.cons hi .nil)
  | count => exact spells_call keywords_known (by simp) (.cons hi .nil)
  | ratio =>
    exact spells_binary keywords_known (by simp) (spells_cast keywords_known .asDouble (hsum hi))
      (spells_call keywords_known (by simp) (.cons (hsum hd) (.cons hzero .nil)))

theorem spells_finalSelect (h : k.Parts q m ds rows) :
    Spells k.Vocabulary (finalSelect m q).render (finalSelectLexemes m q) := by
  have hm := (Catalog.mem_of_metric h.metric).1
  have hterms := spells_groupTerms h
  have hvalue := spells_item keywords_known
    (spells_aggregate
      (spells_plainColumn "facts" "metric_input" (by simp [ownNames]) (by simp [ownNames]))
      (spells_plainColumn "facts" "metric_denominator" (by simp [ownNames]) (by simp [ownNames]))
      m.aggregation)
    (spelled_quoted (.catalog (.metricName hm)) (k.catalog.metric_spelled hm).name)
  have hitems : List.Forall₂ (fun (i : Item) ls => Spells k.Vocabulary i.render ls)
      ((groupTerms q).map .expr) (groupTermLexemes q) :=
    List.forall₂_map_left_iff.2 (hterms.imp fun e ls he => he.of_eq (by rw [Item.render_expr]))
  have hsource := spells_source (spells_own (k := k) (w := "grid") (by simp [ownNames]))
    (fun _ (_ : _ ∈ [()]) => spells_leftJoin keywords_known
      (spells_own (w := "facts") (by simp [ownNames])) (spells_gridCondition h))
    (fun _ _ => starts_join _ _ _)
  rw [List.flatMap_singleton] at hsource
  have hblock := spells_select keywords_known false (List.rel_append hitems (.cons hvalue .nil))
    (.some hsource) .none hterms
  exact hblock

/-- **A statement is spelled by its lexemes,** all of whose words the compiler knows. -/
theorem spells_statement (hk : k.Sourced) (h : k.Parts q m ds rows) :
    Spells k.Vocabulary
      (assemble (spineBody k.source rows q.start q.stop) k.catalog.fact m ds q).render
      (statementLexemes k m ds rows q) := by
  have hgrid :
      Spells k.Vocabulary (gridTable q.dimensions).render (gridTableLexemes q.dimensions) :=
    spells_gridTable fun d hd => h.spelled_dimension (mem_referenced_dimensions hd)
  refine spells_query keywords_known
    (.cons (spells_spineTable (spells_spineBody hk rows q.start q.stop))
      (.cons (spells_factsTable h) (.cons hgrid .nil))) ?_ (spells_groupTerms h) nofun
  exact (spells_finalSelect h).of_eq (by rw [Body.render_select])

end

/-- A statement of visits. -/
theorem parts_visits (name : String) :
    (inlined Visits.catalog Visits.spine).Parts (Visits.query name) Visits.metric [Visits.city]
      Visits.spine.rows :=
  ⟨rfl, rfl, rfl⟩

end SemanticLayer.Compiler
