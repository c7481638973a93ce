import SemanticLayer.Proofs.Query.FactRows

/-
# The days of a statement and its grid

The listed days are a table of their own, and the grid has each of them beside
each combination of dimensions (`Compiler.define_gridTable`).  The combinations
are those of the counted rows, every one once; if no row is counted, one of
nulls stands in for them.
-/

namespace SemanticLayer

open Sql

namespace MetricQuery

variable (q : MetricQuery) (c : Catalog) (db : Engine) (tables : Tables)

/-- The combinations of the counted rows, or one of nulls. -/
def combinations : List (List Value) :=
  firstOccurrences ((q.counted c db tables).map (q.combination c tables)) ++
    if q.counted c db tables = [] then [q.dimensions.map fun _ => .null] else []

variable {q c db tables}

theorem mem_combinations {values : List Value} :
    values ∈ q.combinations c db tables ↔ q.Observed c db tables values := by
  unfold combinations Observed
  rw [List.mem_append, mem_firstOccurrences, List.mem_map]
  refine or_congr Iff.rfl ?_
  split
  · rename_i h
    simp [h]
  · rename_i h
    simp [h]

theorem nodup_combinations : (q.combinations c db tables).Nodup := by
  unfold combinations
  split
  · rename_i h
    simp [h, firstOccurrences, firstOccurrences.go]
  · rw [List.append_nil]
    exact nodup_firstOccurrences _

/-- Every combination has a value for each dimension. -/
theorem length_of_mem_combinations {values : List Value}
    (h : values ∈ q.combinations c db tables) : values.length = q.dimensions.length := by
  rcases mem_combinations.1 h with ⟨row, -, rfl⟩ | ⟨-, rfl⟩
  · exact List.length_map _
  · exact List.length_map _

/-- Without dimensions there is one combination, the empty one. -/
theorem combinations_of_nil (h : q.dimensions = []) : q.combinations c db tables = [[]] := by
  have hall : ∀ values ∈ q.combinations c db tables, values = [] := fun values hvalues =>
    List.eq_nil_of_length_eq_zero (by rw [length_of_mem_combinations hvalues, h]; rfl)
  have hmem : [] ∈ q.combinations c db tables := by
    rw [mem_combinations]
    rcases hcounted : q.counted c db tables with _ | ⟨row, rest⟩
    · exact .inr ⟨hcounted, by rw [h]; rfl⟩
    · exact .inl ⟨row, by rw [hcounted]; exact List.mem_cons_self, by rw [combination, h]; rfl⟩
  have hnodup : (q.combinations c db tables).Nodup := nodup_combinations
  match hlist : q.combinations c db tables with
  | [] => rw [hlist] at hmem; cases hmem
  | [values] => rw [hall values (by rw [hlist]; exact List.mem_cons_self)]
  | values :: values' :: rest =>
    rw [hlist] at hall hnodup
    refine absurd ?_ (List.nodup_cons.1 hnodup).1
    rw [hall values List.mem_cons_self, ← hall values' (by simp)]
    exact List.mem_cons_self

end MetricQuery

namespace Compiler

/-! ### Days -/

/-- The values of the row of a day. -/
def dayValues (row : DayRow) : List Value := row.toList.map .day

/-- The days of a range with the starts of their periods. -/
def daysTable (rows : List DayRow) : Table := ⟨Grain.columns, rows.map dayValues⟩

theorem length_dayValues (row : DayRow) : Grain.columns.length = (dayValues row).length := rfl

/-- The column of a grain holds the start of its period. -/
theorem mem_zip_dayValues (row : DayRow) (g : Grain) :
    (g.column, Value.day (row.get g)) ∈ Grain.columns.zip (dayValues row) := by
  cases g <;> simp [Grain.columns, Grain.all, dayValues, DayRow.toList]

theorem mem_ownNames_of_mem_columns : ∀ w ∈ Grain.columns, w ∈ ownNames := by decide

theorem folded_columns : ∀ w ∈ Grain.columns, (Name.bare w).folded = w :=
  fun w hw => folded_own w (mem_ownNames_of_mem_columns w hw)

section

variable (db : Engine) (tables : Tables)

theorem define_spineTable (rows : List DayRow) (start stop : Date) :
    (spineTable (spineBody .inline rows start stop)).define db tables =
      Function.update tables ["spine"] (daysTable rows) := by
  have hname : (Name.bare "spine").folded = "spine" := folded_own "spine" (by decide)
  have hcolumns : spineColumns.map Name.folded = Grain.columns := by
    rw [spineColumns, List.map_map]
    exact (List.map_congr_left folded_columns).trans (List.map_id _)
  have hlines : ((Body.values "" (rows.map fun row => row.toList.map dateLiteral)).lines db
      tables).map Line.values = rows.map dayValues := by
    rw [Body.lines_values]
    simp only [List.map_map, Function.comp_def, value_dateLiteral]
    rfl
  have hcalled : ∀ t : Table, t.called spineColumns = ⟨Grain.columns, t.rows⟩ := by
    intro t
    rw [Table.called, if_neg (by simp [spineColumns, Grain.columns, Grain.all]), hcolumns]
  rw [spineTable, TableDef.define_mk, hname, hcalled, spineBody, Query.meaning_body, hlines,
    daysTable]

end

/-! ### Combinations -/

section

variable {c : Catalog} {db : Engine} {base : Tables} {m : Metric} {q : MetricQuery}

theorem length_inputColumns (hm : m.Spelled) (value : String → Value) :
    (inputColumns m).length = 2 + (denominators m value).length := by
  unfold inputColumns denominators
  cases ha : m.aggregation with
  | sum => rfl
  | avg => rfl
  | count => rfl
  | ratio =>
    obtain ⟨column, hcolumn, -⟩ := hm.denominator ha
    rw [hcolumn]
    rfl

/-- What the table of facts says of a row has a value for each column. -/
theorem zip_factValues (hm : m.Spelled) (row : List Value) :
    (inputColumns m ++ q.dimensions).zip (factValues c db base m q row) =
      (inputColumns m).zip ((c.dayOf db base row).elim .null .day ::
        c.input base row m.sourceColumn :: denominators m (c.input base row)) ++
      q.dimensions.zip (q.combination c base row) := by
  rw [factValues, List.zip_append]
  rw [length_inputColumns hm (c.input base row), List.length_cons, List.length_cons]
  omega

section

variable (hm : m.Spelled) (hcolumns : (inputColumns m ++ q.dimensions).Nodup) (row : List Value)

include hm hcolumns

theorem valueAt_day : valueAt (inputColumns m ++ q.dimensions) (factValues c db base m q row)
    Grain.day.column = (c.dayOf db base row).elim .null .day := by
  refine valueAt_of_mem hcolumns ?_
  rw [zip_factValues hm]
  exact List.mem_append_left _ List.mem_cons_self

theorem valueAt_input : valueAt (inputColumns m ++ q.dimensions) (factValues c db base m q row)
    "metric_input" = c.input base row m.sourceColumn := by
  refine valueAt_of_mem hcolumns ?_
  rw [zip_factValues hm]
  exact List.mem_append_left _ (List.mem_cons_of_mem _ List.mem_cons_self)

theorem valueAt_denominator {column : String} (hratio : m.aggregation = .ratio)
    (hcolumn : m.denominatorColumn = some column) :
    valueAt (inputColumns m ++ q.dimensions) (factValues c db base m q row)
      "metric_denominator" = c.input base row column := by
  refine valueAt_of_mem hcolumns ?_
  rw [zip_factValues hm, denominators, inputColumns, hratio, hcolumn]
  exact List.mem_append_left _ (by simp)

theorem valueAt_dimension {d : String} (hd : d ∈ q.dimensions) :
    valueAt (inputColumns m ++ q.dimensions) (factValues c db base m q row) d =
      c.value base row d := by
  refine valueAt_of_mem hcolumns ?_
  rw [zip_factValues hm]
  exact List.mem_append_right _ (mem_zip_map hd)

end

section

variable {tables : Tables} (hfacts : tables ["facts"] = countedTable c db base m q)
  (hm : m.Spelled) (hcolumns : (inputColumns m ++ q.dimensions).Nodup)

include hfacts

/-- The rows of the table of facts. -/
theorem rows_facts : (only [.bare "facts"]).rows db tables =
    (q.counted c db base).map fun row =>
      Joined.ofRow "facts" (inputColumns m ++ q.dimensions) (factValues c db base m q row) := by
  rw [only, Source.rows_table, Join.joined_nil, folded_own "facts" (by decide), hfacts,
    countedTable, List.map_map]
  rfl

/-- A combination of nulls stands in when there are no facts. -/
theorem lines_nulls : Select.lines db tables (selectFrom
      (q.dimensions.map fun d => .aliased .null (.quoted d)) []
      (some (.exist true (ofSelect (selectFrom [.expr (.number "1" false)] [only [.bare "facts"]]
        none))))) =
    if q.counted c db base = [] then [⟨[[]], q.dimensions.map fun _ => .null⟩] else [] := by
  have hempty : ((ofSelect (selectFrom [.expr (.number "1" false)] [only [.bare "facts"]]
      none)).meaning db tables).rows = [] ↔ q.counted c db base = [] := by
    rw [ofSelect, selectFrom, Query.meaning_block, Source.joined_single, rows_facts hfacts]
    change List.map _ (List.map _ _) = [] ↔ _
    rw [List.map_eq_nil_iff, List.map_eq_nil_iff]
  rw [selectFrom, Select.lines_block, Source.joined_nil, Expr.passing_some]
  change List.map _ (List.filter _ [[]]) = _
  by_cases hnone : q.counted c db base = []
  · have hpass := (Expr.value_notExist db tables [[]] _).2 (hempty.2 hnone)
    rw [if_pos hnone, List.filter_cons_of_pos (by simpa using hpass), List.filter_nil,
      List.map_singleton, List.map_map]
    rfl
  · rw [if_neg hnone, List.filter_cons_of_neg (by simpa [Expr.value_notExist, hempty] using hnone)]
    rfl

include hm hcolumns

/-- The combinations of the facts, each once. -/
theorem lines_observed : Select.lines db tables (.mk [.word "DISTINCT "]
      (q.dimensions.map fun d => .expr (.column [.quoted d])) none [only [.bare "facts"]] [] none []
      [] none []) =
    (firstOccurrences ((q.counted c db base).map (q.combination c base))).map (⟨[], ·⟩) := by
  have hdistinct : asksDistinct [.word "DISTINCT "] = true := rfl
  have hvalues : ∀ row : List Value, (q.dimensions.map fun d => Item.value db tables
      [Joined.ofRow "facts" (inputColumns m ++ q.dimensions) (factValues c db base m q row)]
        (.expr (.column [.quoted d]))) = q.combination c base row := by
    refine fun row => List.map_congr_left fun d hd => ?_
    exact (Joined.get_ofRow_column ..).trans (valueAt_dimension hm hcolumns row hd)
  rw [Select.lines_block, Source.joined_single, rows_facts hfacts, hdistinct, Expr.passing_none]
  change List.map _ (firstOccurrences (List.map Line.values (List.map _ (List.map _ _)))) = _
  simp only [List.map_map, Function.comp_def, hvalues]

/-- **The combinations of a statement** are those of the counted rows. -/
theorem meaning_combinations : (Query.mk none (combinations q.dimensions) [] [] [] "").meaning db
    tables = ⟨q.dimensions, q.combinations c db base⟩ := by
  have hnames : (combinations q.dimensions).names = q.dimensions := by
    change (q.dimensions.map fun d => Item.expr (.column [.quoted d])).map Item.name = _
    rw [List.map_map]
    exact List.map_id _
  rw [Query.meaning_body, hnames, combinations, Body.lines_unionAll, Body.lines_select,
    Body.lines_select, lines_observed hfacts hm hcolumns, lines_nulls hfacts, List.map_append,
    List.map_map, MetricQuery.combinations]
  congr 2
  · exact List.map_id _
  · split <;> rfl

end

/-! ### The grid -/

/-- A day of the range beside a combination. -/
abbrev Place := DayRow × List Value

/-- The values of the row of a place. -/
def Place.values (u : Place) : List Value := dayValues u.1 ++ u.2

/-- The rows of the places come day by day. -/
theorem map_product (rows : List DayRow) (combinations : List (List Value)) :
    (rows ×ˢ combinations).map Place.values =
      rows.flatMap fun row => combinations.map (dayValues row ++ ·) := by
  change (rows.flatMap fun row => combinations.map (Prod.mk row)).map Place.values = _
  rw [List.map_flatMap]
  exact List.flatMap_congr fun row _ => List.map_map

section

variable (db : Engine) (tables : Tables)

/-- A column of a table of the statement, in the first row of a group. -/
theorem value_plainColumn {table w : String} (ht : table ∈ ownNames) (hw : w ∈ ownNames)
    (group : List Joined) :
    (plainColumn table w).value db tables group = (group.headD []).get [table, w] := by
  change (group.headD []).get [(Name.bare table).folded, (Name.bare w).folded] = _
  rw [folded_own table ht, folded_own w hw]

theorem value_ownColumn {table : String} (ht : table ∈ ownNames) (w : String)
    (group : List Joined) :
    (column table w).value db tables group = (group.headD []).get [table, w] := by
  change (group.headD []).get [(Name.bare table).folded, w] = _
  rw [folded_own table ht]

/-- The items for the days have the values of the day. -/
theorem values_days (row : DayRow) {more : Joined} (hmore : ∀ v ∈ more, v.table ≠ "spine") :
    (Grain.columns.map fun w => Item.expr (plainColumn "spine" w)).map (Item.value db tables
      [Joined.ofRow "spine" Grain.columns (dayValues row) ++ more]) = dayValues row := by
  rw [List.map_map]
  refine Eq.trans ?_ (map_valueAt (by decide) (length_dayValues row))
  refine List.map_congr_left fun w hw => ?_
  rw [Function.comp_apply, Item.value_expr,
    value_plainColumn db tables (by decide) (mem_ownNames_of_mem_columns w hw), List.headD_cons,
    Joined.get_append_left, Joined.get_ofRow]
  exact fun v hv => by simp [Datum.named, (hmore v hv).symm]

/-- The items for the dimensions have the values of the combination. -/
theorem values_dimensions {dimensions : List String} (hdimensions : dimensions.Nodup) (row : DayRow)
    {values : List Value} (hlength : dimensions.length = values.length) :
    (dimensions.map fun d => Item.expr (column "dims" d)).map (Item.value db tables
      [Joined.ofRow "spine" Grain.columns (dayValues row) ++
        Joined.ofRow "dims" dimensions values]) = values := by
  rw [List.map_map]
  refine Eq.trans ?_ (map_valueAt hdimensions hlength)
  refine List.map_congr_left fun d _ => ?_
  rw [Function.comp_apply, Item.value_expr, value_ownColumn db tables (by decide), List.headD_cons,
    Joined.get_append_right, Joined.get_ofRow]
  exact Joined.not_named_ofRow (by decide) _ _

end

theorem map_name_days :
    (Grain.columns.map fun w => Item.expr (plainColumn "spine" w)).map Item.name = Grain.columns := by
  rw [List.map_map]
  exact (List.map_congr_left folded_columns).trans (List.map_id _)

theorem map_name_dimensions (dimensions : List String) :
    (dimensions.map fun d => Item.expr (column "dims" d)).map Item.name = dimensions := by
  rw [List.map_map]
  exact List.map_id _

section

variable {tables : Tables} {rows : List DayRow} (hspine : tables ["spine"] = daysTable rows)

include hspine

/-- The rows of the table of days. -/
theorem rows_spine : (tables [(Name.bare "spine").folded]).rows.map (Joined.ofRow
    (Name.bare "spine").folded (tables [(Name.bare "spine").folded]).columns) =
      rows.map fun row => Joined.ofRow "spine" Grain.columns (dayValues row) := by
  rw [folded_own "spine" (by decide), hspine, daysTable, List.map_map]
  rfl

/-- **Without dimensions the grid has every day of the range.** -/
theorem meaning_days :
    (ofSelect (selectFrom (Grain.columns.map fun w => .expr (plainColumn "spine" w))
      [only [.bare "spine"]] none)).meaning db tables = daysTable rows := by
  have hvalues : ∀ row : DayRow, (Grain.columns.map fun w => Item.expr (plainColumn "spine"
      w)).map (Item.value db tables [Joined.ofRow "spine" Grain.columns (dayValues row)]) =
        dayValues row := by
    intro row
    have hmore : ∀ v ∈ ([] : Joined), v.table ≠ "spine" := List.forall_mem_nil _
    have hvalues := values_days db tables row hmore
    rwa [List.append_nil] at hvalues
  rw [ofSelect, selectFrom, Query.meaning_block, map_name_days, Source.joined_single, only,
    Source.rows_table, Join.joined_nil, rows_spine hspine, Expr.passing_none, List.map_map, daysTable]
  exact congrArg _ (List.map_congr_left fun row _ => hvalues row)

/-- **With dimensions it has every day beside every combination.** -/
theorem meaning_crossed (hm : m.Spelled) (hcolumns : (inputColumns m ++ q.dimensions).Nodup)
    (hfacts : tables ["facts"] = countedTable c db base m q) :
    (ofSelect (selectFrom ((Grain.columns.map fun w => .expr (plainColumn "spine" w)) ++
        q.dimensions.map fun d => .expr (column "dims" d))
      [.mk (.table [.bare "spine"] none) [.mk "CROSS JOIN" (.derived false
        (.mk none (combinations q.dimensions) [] [] [] "") (some ⟨.bare "dims", []⟩)) .free]]
      none)).meaning db tables =
        ⟨Grain.columns ++ q.dimensions, (rows ×ˢ q.combinations c db base).map Place.values⟩ := by
  have hvalues : ∀ (row : DayRow), ∀ values ∈ q.combinations c db base,
      ((Grain.columns.map fun w => Item.expr (plainColumn "spine" w)) ++
        q.dimensions.map fun d => Item.expr (column "dims" d)).map (Item.value db tables
          [Joined.ofRow "spine" Grain.columns (dayValues row) ++
            Joined.ofRow "dims" q.dimensions values]) = dayValues row ++ values := by
    intro row values hvalues
    have hmore : ∀ v ∈ Joined.ofRow "dims" q.dimensions values, v.table ≠ "spine" := by
      intro v hv
      obtain ⟨p, -, rfl⟩ := List.mem_map.1 hv
      exact (by decide : "dims" ≠ "spine")
    rw [List.map_append, values_days db tables row hmore, values_dimensions db tables
      (List.nodup_append.1 hcolumns).2.1 row (MetricQuery.length_of_mem_combinations hvalues).symm]
  have hdims : (Name.bare "dims").folded = "dims" := folded_own "dims" (by decide)
  rw [ofSelect, selectFrom, Query.meaning_block, List.map_append, map_name_days,
    map_name_dimensions, Source.joined_single, Source.rows_table, Join.joined_single,
    rows_spine hspine, Expr.passing_none, List.flatMap_map, List.map_flatMap, map_product]
  refine congrArg _ (List.flatMap_congr fun row _ => ?_)
  rw [Join.besides_cross, meaning_combinations hfacts hm hcolumns, hdims, List.map_map]
  exact List.map_congr_left fun values h => hvalues row values h

/-- **The grid has every day of the range beside every combination.** -/
theorem define_gridTable (hm : m.Spelled) (hcolumns : (inputColumns m ++ q.dimensions).Nodup)
    (hfacts : tables ["facts"] = countedTable c db base m q) :
    (gridTable q.dimensions).define db tables = Function.update tables ["grid"]
      ⟨Grain.columns ++ q.dimensions, (rows ×ˢ q.combinations c db base).map Place.values⟩ := by
  have hgrid : (Name.bare "grid").folded = "grid" := folded_own "grid" (by decide)
  have hcalled : ∀ t : Table, t.called [] = t := fun _ => rfl
  rw [gridTable, TableDef.define_mk, hgrid, hcalled]
  refine congrArg _ ?_
  by_cases hnone : q.dimensions = []
  · have hplaces : (rows ×ˢ q.combinations c db base).map Place.values = rows.map dayValues := by
      rw [MetricQuery.combinations_of_nil hnone, map_product, List.map_eq_flatMap]
      simp only [List.map_singleton, List.append_nil]
    rw [if_pos (by simpa using hnone), meaning_days hspine, hplaces, hnone, List.append_nil,
      daysTable]
  · rw [if_neg (by simpa using hnone)]
    exact meaning_crossed hspine hm hcolumns hfacts

end

end

end Compiler

end SemanticLayer
