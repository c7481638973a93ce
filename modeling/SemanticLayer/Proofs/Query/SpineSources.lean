import SemanticLayer.Proofs.Calendar.DayRows
import SemanticLayer.Proofs.Query.Spelling

/-
# The two sources of days

A compiler lists the days of a range in its statements or selects them from a
table.  Both look the days up, so both fail on the same queries, and the texts
of their statements differ in the body of the table `spine` alone:

| source | body |
| --- | --- |
| the statement | `VALUES (DATE '…', …), …`, a row for each day |
| a table | `SELECT date_day, … FROM "…" WHERE date_day BETWEEN DATE '…' AND DATE '…'` |
-/

namespace SemanticLayer.Compiler

open Sql

/-! ### The texts of the bodies -/

/-- The literal of a date in a statement. -/
def dateText (d : Date) : String := "DATE '" ++ d.iso ++ "'"

/-- The row of a day in a statement. -/
def dayText (row : DayRow) : String :=
  "(" ++ ", ".intercalate
    [dateText row.day, dateText row.week, dateText row.month, dateText row.quarter,
      dateText row.year] ++ ")"

/-- The days of a range, listed. -/
def listedDays (rows : List DayRow) : String := "VALUES " ++ ", ".intercalate (rows.map dayText)

/-- A name with dots, each part in quotes. -/
def quotedTable (name : String) : String :=
  ".".intercalate ((Identifier.parts name.toList).map fun part => "\"" ++ String.ofList part ++ "\"")

/-- The days of a range, selected from a table. -/
def selectedDays (name : String) (start stop : Date) : String :=
  "SELECT date_day, date_week, date_month, date_quarter, date_year FROM " ++ quotedTable name ++
    " WHERE date_day BETWEEN " ++ dateText start ++ " AND " ++ dateText stop

theorem joinWith_eq_intercalate (separator : String) (texts : List String) :
    joinWith separator texts = separator.intercalate texts := by
  induction texts with
  | nil => rfl
  | cons t rest ih =>
    cases rest with
    | nil => rfl
    | cons u rest => rw [joinWith_cons_cons, String.intercalate_cons_cons, ih]

theorem render_dateLiteral (d : Date) : (dateLiteral d).render = dateText d := by
  have hiso : stringLiteral d.iso = "'" ++ d.iso ++ "'" := by
    rw [stringLiteral, enclose, Lex.quoteBody_of_quiet (quiet_iso d)]
    exact String.toList_injective (by simp)
  rw [dateLiteral, Expr.render, hiso, dateText]
  simp only [← String.append_assoc]
  rfl

theorem render_inRange (column : String) (start stop : Date) :
    (inRange (.column [.bare column]) start stop).render =
      column ++ " BETWEEN " ++ dateText start ++ " AND " ++ dateText stop := by
  have hcolumn : (Expr.column [.bare column]).render = column := rfl
  rw [inRange, Expr.render_between, hcolumn, render_dateLiteral, render_dateLiteral, renderNot]
  simp only [Bool.false_eq_true, if_false, String.append_empty]

/-- The parts of a checked name have no quotes in them. -/
theorem renderPath_tableName {name : String} (h : Identifier.tableOk name = true) :
    renderPath (tableName name) = quotedTable name := by
  have hpart : ∀ part ∈ Identifier.parts name.toList,
      (Name.quoted (String.ofList part)).render = "\"" ++ String.ofList part ++ "\"" := by
    intro part hpart
    have hwords := Identifier.isWordPart_of_ok (List.all_eq_true.1 h part hpart)
    rw [← String.toList_ofList (l := part)] at hwords
    refine String.toList_injective ?_
    rw [Name.render, Name.quoted, toList_enclose hwords]
    simp
  rw [renderPath, joinWith_eq_intercalate, tableName, List.map_map, quotedTable]
  exact congrArg _ (List.map_congr_left hpart)

/-- **The days in a statement are listed row by row.** -/
theorem render_spineBody_inline (rows : List DayRow) (start stop : Date) :
    (spineBody .inline rows start stop).render = listedDays rows := by
  have hrow : ∀ row : DayRow,
      "(" ++ commas ((row.toList.map dateLiteral).map Expr.render) ++ ")" = dayText row := by
    intro row
    simp only [commas, joinWith_eq_intercalate, DayRow.toList, Grain.all, List.map_cons,
      List.map_nil, DayRow.get, render_dateLiteral, dayText]
  rw [spineBody, Body.render_values, Expr.rowTexts_eq_map, List.map_map, commas,
    joinWith_eq_intercalate, listedDays]
  exact congrArg (fun texts => "VALUES " ++ ", ".intercalate texts)
    (List.map_congr_left fun row _ => hrow row)

example : listedDays Visits.spine.rows = "VALUES (DATE '2026-01-01', DATE '2025-12-29', " ++
    "DATE '2026-01-01', DATE '2026-01-01', DATE '2026-01-01')" := by decide

/-- **The days in a table are selected by the bounds of the range.** -/
theorem render_spineBody_table {name : String} (h : Identifier.tableOk name = true)
    (rows : List DayRow) (start stop : Date) :
    (spineBody (.table name) rows start stop).render = selectedDays name start stop := by
  have hsource : (only (tableName name)).render = quotedTable name := by
    have hno : renderAlias none = "" ∧ String.join (Join.texts []) = "" := ⟨rfl, rfl⟩
    rw [only, Source.render_mk, Factor.render_table, renderPath_tableName h, hno.1, hno.2,
      String.append_empty, String.append_empty]
  have hitems : commas (Item.texts (spineColumns.map fun c => Item.expr (.column [c]))) =
      "date_day, date_week, date_month, date_quarter, date_year" := by decide
  have hplain : String.join (Part.texts []) = "" := rfl
  have hblock := Select.render_block [] (spineColumns.map fun c => .expr (.column [c]))
    (some (only (tableName name))) (some (inRange (.column [.bare Grain.day.column]) start stop)) []
  rw [Option.toList_some, hitems, Option.map_some, Option.map_some, hsource, render_inRange, hplain,
    List.isEmpty_nil, if_pos rfl, Option.getD_some, Option.getD_some, String.append_empty,
    String.append_empty] at hblock
  have hopening : "SELECT " ++ "date_day, date_week, date_month, date_quarter, date_year" ++
      " FROM " = "SELECT date_day, date_week, date_month, date_quarter, date_year FROM " := by
    decide
  have hbounds : " WHERE " ++ Grain.day.column ++ " BETWEEN " = " WHERE date_day BETWEEN " := by
    decide
  rw [spineBody, Body.render_select, selectFrom, hblock]
  unfold selectedDays
  rw [← hopening, ← hbounds]
  simp only [String.append_assoc]

/-! ### The statement around them -/

/-- What stands before the body of the table of days. -/
def spineOpening : String :=
  "WITH spine (date_day, date_week, date_month, date_quarter, date_year) AS ("

theorem render_tableDef (called : Alias) (q : Query) :
    (TableDef.mk called "" q "").render = called.render ++ " AS (" ++ q.render ++ ")" := by
  have hno : lead "" = "" ∧ trail "" = "" := ⟨rfl, rfl⟩
  have hopening : " AS (" = " AS " ++ "(" := by decide
  rw [TableDef.render_mk, hno.1, hno.2, String.append_empty, String.append_empty, hopening]
  simp only [String.append_assoc]

theorem render_spineTable (body : Body) :
    (spineTable body).render =
      "spine (date_day, date_week, date_month, date_quarter, date_year) AS (" ++ body.render ++
        ")" := by
  have hcalled : Alias.render ⟨.bare "spine", spineColumns⟩ =
      "spine (date_day, date_week, date_month, date_quarter, date_year)" := by decide
  have hopening : "spine (date_day, date_week, date_month, date_quarter, date_year)" ++ " AS (" =
      "spine (date_day, date_week, date_month, date_quarter, date_year) AS (" := by decide
  rw [spineTable, render_tableDef, hcalled, hopening, Query.render_body]

/-- **Nothing but the body of the table of days depends on it.** -/
theorem render_assemble (fact : FactTable) (m : Metric) (ds : List Dimension) (q : MetricQuery) :
    ∃ rest, ∀ body, (assemble body fact m ds q).render =
      spineOpening ++ body.render ++ ("), facts AS (" ++ rest) := by
  obtain ⟨facts, hfacts⟩ : ∃ facts, (factsTable fact m ds q).render = "facts AS (" ++ facts := by
    have hopening : Alias.render ⟨.bare "facts", []⟩ ++ " AS (" = "facts AS (" := by
      decide
    rw [factsTable, render_tableDef, hopening]
    exact ⟨_, String.append_assoc⟩
  refine ⟨facts ++ ", " ++ (gridTable q.dimensions).render ++ " " ++ (finalSelect m q).render ++
    " ORDER BY " ++ commas (Expr.orderTexts ((groupTerms q).map fun e => (e, ""))), fun body => ?_⟩
  have hopening : "WITH " ++
      "spine (date_day, date_week, date_month, date_quarter, date_year) AS (" = spineOpening := by
    decide
  have hclosing : ")" ++ ", " ++ "facts AS (" = "), facts AS (" := by decide
  rw [assemble, Query.render_ordered _ _ (by simp [groupTerms]), With.render_mk,
    TableDef.texts_eq_map, Body.render_select, List.map_cons, List.map_cons, List.map_cons,
    List.map_nil, commas, joinWith_cons_cons, joinWith_cons_cons, render_spineTable, hfacts,
    ← hopening, ← hclosing]
  simp only [Bool.false_eq_true, if_false, String.empty_append, String.append_assoc, commas,
    joinWith, List.foldl_nil]

/-! ### Compiling from the two sources -/

/-- **The source of the days decides nothing but the body of their table:** whatever a query needs
is looked up in one way. -/
theorem statement_sources (k : Compiler) (q : MetricQuery) :
    (∃ e, ∀ source, { k with source := source : Compiler }.statement q = .error e) ∨
      ∃ m ds rows, k.Parts q m ds rows ∧
        ∀ source, { k with source := source : Compiler }.statement q =
          .ok (assemble (spineBody source rows q.start q.stop) k.catalog.fact m ds q) := by
  have hsteps : ∀ source, { k with source := source : Compiler }.statement q = (do
      let m ← ofCatalog (k.catalog.metric q.metric)
      let ds ← ofCatalog ((referenced q).mapM k.catalog.dimension)
      let rows ← k.daysOf q.start q.stop
      return assemble (spineBody source rows q.start q.stop) k.catalog.fact m ds q) :=
    fun _ => rfl
  cases hm : ofCatalog (k.catalog.metric q.metric) with
  | error e => exact .inl ⟨e, fun source => by rw [hsteps, hm]; rfl⟩
  | ok m =>
    cases hds : ofCatalog ((referenced q).mapM k.catalog.dimension) with
    | error e => exact .inl ⟨e, fun source => by rw [hsteps, hm, hds]; rfl⟩
    | ok ds =>
      cases hrows : k.daysOf q.start q.stop with
      | error e => exact .inl ⟨e, fun source => by rw [hsteps, hm, hds, hrows]; rfl⟩
      | ok rows =>
        have htree : k.statement q =
            .ok (assemble (spineBody k.source rows q.start q.stop) k.catalog.fact m ds q) := by
          rw [hsteps k.source, hm, hds, hrows]
          rfl
        obtain ⟨m, ds, rows, hparts, -⟩ := statement_eq_ok.1 htree
        exact .inr ⟨m, ds, rows, hparts, fun source => statement_eq_ok.2
          ⟨m, ds, rows, ⟨hparts.metric, hparts.dimensions, hparts.rows⟩, rfl⟩⟩

/-- **The two sources of days agree.**  A query is compiled with the days in the statement and with
any table of days that a compiler takes.  Both fail with one error, or both give a text.  The texts
are the same before and behind the body of the table `spine`.  The one body lists the days of the
range in ascending order, one row each, with the starts of the week, the month, the quarter and the
year that hold them; the other selects the same columns within the same bounds. -/
theorem compile_sources_agree {start stop : Date} {s : Spine}
    (hs : Spine.ofHorizon start stop = .ok s) (c : Catalog) {name : String} {k : Compiler}
    (hk : (inlined c s).withSpineTable name = .ok k) {c' : Catalog} {s' : Spine}
    (v : ValidQuery c' s') :
    (∃ e, (inlined c s).compile v = .error e ∧ k.compile v = .error e) ∨
      ∃ rows rest, DaysInOrder rows v.query.start v.query.stop ∧
        (inlined c s).compile v =
          .ok (spineOpening ++ listedDays rows ++ ("), facts AS (" ++ rest)) ∧
        k.compile v =
          .ok (spineOpening ++ selectedDays name v.query.start v.query.stop ++
            ("), facts AS (" ++ rest)) := by
  obtain ⟨hname, rfl⟩ := withSpineTable_eq_ok.1 hk
  rcases statement_sources (inlined c s) v.query with ⟨e, he⟩ | ⟨m, ds, rows, hparts, htree⟩
  · have hfails : ∀ source, { inlined c s with source := source : Compiler }.compile v =
        .error e := fun source => by rw [compile, he]; rfl
    exact .inl ⟨e, hfails .inline, hfails (.table name)⟩
  · obtain ⟨rest, hrest⟩ := render_assemble c.fact m ds v.query
    have hinline := compile_eq_ok.2 ⟨_, htree .inline, rfl⟩
    have htable := compile_eq_ok.2 ⟨_, htree (.table name), rfl⟩
    refine .inr ⟨rows, rest, Spine.daysInOrder_of_between hs hparts.rows, hinline.trans ?_,
      htable.trans ?_⟩
    · exact congrArg _ ((hrest _).trans (by rw [render_spineBody_inline]))
    · exact congrArg _ ((hrest _).trans (by rw [render_spineBody_table hname]))

/-- The visits of one day, with the day in the statement and with a table of days. -/
theorem compile_sources_agree_visits :
    ∃ k, (inlined Visits.catalog Visits.spine).withSpineTable "main.spine" = .ok k ∧
      ∃ rows rest, DaysInOrder rows Visits.newYear Visits.newYear ∧
        (inlined Visits.catalog Visits.spine).compile (Visits.valid "Lyon") =
          .ok (spineOpening ++ listedDays rows ++ ("), facts AS (" ++ rest)) ∧
        k.compile (Visits.valid "Lyon") =
          .ok (spineOpening ++ selectedDays "main.spine" Visits.newYear Visits.newYear ++
            ("), facts AS (" ++ rest)) := by
  have hk : (inlined Visits.catalog Visits.spine).withSpineTable "main.spine" = .ok _ :=
    withSpineTable_eq_ok.2 ⟨by decide, rfl⟩
  have hstatement := statement_eq_ok.2 ⟨_, _, _, parts_visits "Lyon", rfl⟩
  have hcompiles := compile_eq_ok (v := Visits.valid "Lyon").2 ⟨_, hstatement, rfl⟩
  rcases compile_sources_agree Visits.ofHorizon_newYear Visits.catalog hk (Visits.valid "Lyon") with
    ⟨e, he, -⟩ | hagree
  · cases he.symm.trans hcompiles
  · exact ⟨_, hk, hagree⟩

end SemanticLayer.Compiler
