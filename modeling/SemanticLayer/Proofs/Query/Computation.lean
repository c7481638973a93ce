import SemanticLayer.Proofs.Query.Groups

/-
# What compiled statements compute

The three tables and the final block of a statement fit together so that it
answers its query (`Compiler.Parts.answers`): no counted row is lost or counted
twice, in ranges that cut periods, for days without facts, and for dimensions
that are null.

The days of the range are a table `spine` that the statement defines in front of
everything else, and it hides a table of the database that is named like it.  No
check keeps fact and lookup tables from that name.  So a statement answers its
query over a database unless it reads a table `spine`, and what stands in such a
table makes no difference to it (`Compiler.compile_answers`).
-/

namespace SemanticLayer

open Sql

/-! ### Names -/

namespace Identifier

/-- A name of one part is that part. -/
theorem eq_of_parts_eq_singleton {cs part : List Char} (h : parts cs = [part]) : cs = part := by
  induction cs generalizing part with
  | nil => exact List.head_eq_of_cons_eq h
  | cons c cs ih =>
    rw [parts] at h
    split at h
    · exact absurd (List.tail_eq_of_cons_eq h) (parts_ne_nil cs)
    · split at h
      · rename_i hnone
        exact absurd hnone (parts_ne_nil cs)
      · rename_i first more hparts
        obtain ⟨rfl, rfl⟩ := List.cons.inj h
        rw [ih hparts]

end Identifier

/-- Only one name leads to a table that a statement defines. -/
theorem eq_of_tablePath_eq_singleton {name w : String} (h : tablePath name = [w]) : name = w := by
  rw [tablePath] at h
  obtain ⟨part, hparts, rfl⟩ := List.map_eq_singleton_iff.1 h
  rw [← Identifier.eq_of_parts_eq_singleton hparts, String.ofList_toList]

namespace Compiler

section

variable {k : Compiler} {db : Engine} {tables : Tables} {q : MetricQuery} {m : Metric}
  {ds : List Dimension} {rows : List DayRow}

/-- The tables of a database with the days of a range in front. -/
def overDays (rows : List DayRow) (tables : Tables) : Tables :=
  Function.update tables ["spine"] (daysTable rows)

variable (db) in
/-- The tables that the final block sees. -/
theorem Parts.tables_assemble (h : k.Parts q m ds rows) (hm : m.Spelled)
    (hcolumns : (inputColumns m ++ q.dimensions).Nodup)
    (hkeyed : q.Keyed k.catalog (overDays rows tables)) :
    With.tables db tables (some (.mk false [spineTable (spineBody .inline rows q.start q.stop),
      factsTable k.catalog.fact m ds q, gridTable q.dimensions])) =
    Function.update (Function.update (overDays rows tables) ["facts"]
      (countedTable k.catalog db (overDays rows tables) m q)) ["grid"]
        ⟨Grain.columns ++ q.dimensions,
          (rows ×ˢ q.combinations k.catalog db (overDays rows tables)).map Place.values⟩ := by
  change (gridTable q.dimensions).define db ((factsTable k.catalog.fact m ds q).define db
    ((spineTable (spineBody .inline rows q.start q.stop)).define db tables)) = _
  rw [define_spineTable, ← overDays, h.define_factsTable hm hkeyed]
  refine define_gridTable ?_ hm hcolumns (Function.update_self ..)
  rw [Function.update_of_ne (by decide), overDays, Function.update_self]

/-! ### Order -/

/-- Lines that are ordered by their keys are ordered by their periods. -/
theorem period_le_of_listLe {a b : Date × List Value}
    (h : db.listLe (code a) (code b) = true) : a.1 ≤ b.1 := by
  rw [code, code, Engine.listLe, Bool.and_eq_true, db.le_day] at h
  exact of_decide_eq_true h.1

/-- Keys in the order of their periods, and in one period of their combinations. -/
def orderedKeys (db : Engine) (keys : List (Date × List Value)) : List (Date × List Value) :=
  keys.mergeSort fun a b => db.listLe (code a) (code b)

theorem orderedKeys_perm (db : Engine) (keys : List (Date × List Value)) :
    (orderedKeys db keys).Perm keys := List.mergeSort_perm ..

theorem pairwise_orderedKeys (db : Engine) (keys : List (Date × List Value)) :
    (orderedKeys db keys).Pairwise fun a b => a.1 ≤ b.1 :=
  (List.pairwise_mergeSort (fun a b c => db.listLe_trans (code a) (code b) (code c))
    (fun a b => db.listLe_total (code a) (code b)) keys).imp period_le_of_listLe

/-! ### The table that a statement becomes -/

/-- The names of the final block. -/
theorem columns_meaning_assemble (body : Body) (fact : FactTable) :
    ((assemble body fact m ds q).meaning db tables).columns =
      q.grain.column :: q.dimensions ++ [m.name] := by
  have hnamed : ∀ i ∈ (finalSelect m q).items, i.column?.isSome := by
    intro i hi
    rcases List.mem_append.1 (show i ∈ (groupTerms q).map Item.expr ++ [_] from hi) with hi | hi
    · obtain ⟨e, he, rfl⟩ := List.mem_map.1 hi
      rcases List.mem_cons.1 he with rfl | he
      · rfl
      · obtain ⟨d, -, rfl⟩ := List.mem_map.1 he
        rfl
    · rw [List.mem_singleton.1 hi]
      rfl
  rw [← columns_finalSelect]
  exact Item.map_name hnamed

variable (db) in
/-- **The rows of a statement** are the keys of the grid in their order, each with its value. -/
theorem Parts.rows_meaning_assemble (h : k.Parts q m ds rows) (hm : m.Spelled)
    (hcolumns : (inputColumns m ++ q.dimensions).Nodup)
    (hgrid : (Grain.columns ++ q.dimensions).Nodup) (hrows : DayRows rows q.start q.stop)
    (hkeyed : q.Keyed k.catalog (overDays rows tables)) :
    ((assemble (spineBody .inline rows q.start q.stop) k.catalog.fact m ds q).meaning
      db tables).rows =
    (orderedKeys db (firstOccurrences
      ((q.meetings k.catalog db (overDays rows tables) rows).map fun x => q.keyOf x.1))).map
        fun key => code key ++ [MetricQuery.total k.catalog (overDays rows tables) m
          (q.countedIn k.catalog db (overDays rows tables) key)] := by
  set base := overDays rows tables with hbase
  set full := With.tables db tables (some (.mk false
    [spineTable (spineBody .inline rows q.start q.stop), factsTable k.catalog.fact m ds q,
      gridTable q.dimensions])) with hfull
  have htables : full = _ := h.tables_assemble db hm hcolumns hkeyed
  have hplaces : full ["grid"] = ⟨Grain.columns ++ q.dimensions,
      (rows ×ˢ q.combinations k.catalog db base).map Place.values⟩ := by
    rw [htables, Function.update_self]
  have hfacts : full ["facts"] = countedTable k.catalog db base m q := by
    rw [htables, Function.update_of_ne (by decide), Function.update_self]
  have hlines := lines_finalSelect hm hcolumns hgrid hrows hplaces hfacts
  set keys := firstOccurrences ((q.meetings k.catalog db base rows).map fun x => q.keyOf x.1)
  -- the terms of the order have the values of the key of a line
  have hterms : ∀ key ∈ keys, ((groupTerms q).map fun e => (e, "")).map (fun t =>
      t.1.value db full (groupOf k.catalog db base m q rows key)) = code key := by
    intro key hkey
    rw [List.map_map]
    exact value_groupOf full hgrid (mem_firstOccurrences.1 hkey)
  have hsorted : db.sorted (fun line => ((groupTerms q).map fun e => (e, "")).map fun t =>
      t.1.value db full line.group) (Select.lines db full (finalSelect m q)) =
      (orderedKeys db keys).map fun key => ⟨groupOf k.catalog db base m q rows key,
        code key ++ [MetricQuery.total k.catalog base m (q.countedIn k.catalog db base key)]⟩ := by
    rw [hlines, Engine.sorted, orderedKeys, List.map_mergeSort]
    intro a ha b hb
    rw [hterms a ha, hterms b hb]
  rw [assemble, Query.meaning_ordered]
  change (db.sorted _ (Select.lines db full _)).map Line.values = _
  rw [hsorted, List.map_map]
  rfl

/-- The line of a period and a combination. -/
def lineAt (c : Catalog) (db : Engine) (tables : Tables) (m : Metric) (q : MetricQuery)
    (key : Date × List Value) : SeriesLine :=
  ⟨key.1, key.2, MetricQuery.total c tables m (q.countedIn c db tables key)⟩

/-- **The statement answers its query** over the tables with the days in front. -/
theorem Parts.answers (h : k.Parts q m ds rows) (hm : m.Spelled)
    (hcolumns : (inputColumns m ++ q.dimensions).Nodup)
    (hgrid : (Grain.columns ++ q.dimensions).Nodup) (hrows : DayRows rows q.start q.stop)
    (hkeyed : q.Keyed k.catalog (overDays rows tables)) :
    q.Answers k.catalog db (overDays rows tables) m
      ((assemble (spineBody .inline rows q.start q.stop) k.catalog.fact m ds q).meaning
        db tables) := by
  have htable := h.rows_meaning_assemble db hm hcolumns hgrid hrows hkeyed
  set base := overDays rows tables
  set keys := firstOccurrences ((q.meetings k.catalog db base rows).map fun x => q.keyOf x.1)
    with hkeys
  have hlines : ((orderedKeys db keys).map (lineAt k.catalog db base m q)).map SeriesLine.key =
      orderedKeys db keys := by
    rw [List.map_map]
    exact List.map_id _
  refine ⟨columns_meaning_assemble .., (orderedKeys db keys).map (lineAt k.catalog db base m q),
    ?_, ?_, fun key => ?_, ?_, ?_⟩
  · rw [htable, List.map_map]
    rfl
  · rw [hlines, (orderedKeys_perm db keys).nodup_iff]
    exact nodup_firstOccurrences _
  · rw [hlines, (orderedKeys_perm db keys).mem_iff, hkeys, mem_firstOccurrences,
      MetricQuery.mem_keys hrows]
  · exact List.pairwise_map.2 (pairwise_orderedKeys db keys)
  · exact List.forall_mem_map.2 fun key _ => rfl

/-! ### A table that the days hide -/

/-- A statement has its days in front of whatever table is named like them. -/
theorem meaning_assemble_overDays (fact : FactTable) :
    (assemble (spineBody .inline rows q.start q.stop) fact m ds q).meaning db
      (overDays rows tables) =
        (assemble (spineBody .inline rows q.start q.stop) fact m ds q).meaning db tables := by
  have htables : With.tables db (overDays rows tables) (some (.mk false
      [spineTable (spineBody .inline rows q.start q.stop), factsTable fact m ds q,
        gridTable q.dimensions])) =
      With.tables db tables (some (.mk false
        [spineTable (spineBody .inline rows q.start q.stop), factsTable fact m ds q,
          gridTable q.dimensions])) := by
    change TableDef.define _ (TableDef.define _ (TableDef.define _ _ _) _) _ =
      TableDef.define _ (TableDef.define _ (TableDef.define _ _ _) _) _
    rw [define_spineTable, define_spineTable, overDays, Function.update_idem]
  rw [assemble, Query.meaning_ordered, Query.meaning_ordered, htables]

/-- A query that does not read a table `spine` reads the same tables with the days in front. -/
theorem tableOf_overDays {c : Catalog} (h : ¬ q.Reads c "spine") {name : String}
    (hname : q.Reads c name) : tableOf (overDays rows tables) name = tableOf tables name := by
  refine Function.update_of_ne (fun hpath => h ?_) _ _
  rwa [eq_of_tablePath_eq_singleton hpath] at hname

end

end Compiler

/-! ### The text of a statement -/

/-- What a lexeme says: a value of a filter says itself. -/
def Sql.Lexeme.meant : Lexeme → Token
  | .fixed t => t
  | .value v => .text v

/-- A text without quotes is read back as it is. -/
theorem Sql.received_of_unquoted {cs : List Char} (h : '\'' ∉ cs) {s : QuoteState} :
    received s cs = cs := by
  induction cs generalizing s with
  | nil => cases s <;> rfl
  | cons c cs ih =>
    obtain ⟨hc, hcs⟩ := not_or.1 (List.mem_cons.not.1 h)
    cases s <;> rw [received, if_neg (Ne.symm hc), ih hcs]

theorem Sql.Lexeme.token_eq_meant {ls : List Lexeme} (h : ∀ v ∈ values ls, '\'' ∉ v.toList) :
    ls.map Lexeme.token = ls.map Lexeme.meant := by
  refine List.map_congr_left fun l hl => ?_
  cases l with
  | fixed t => rfl
  | value v =>
    have hv : v ∈ values ls := List.mem_filterMap.2 ⟨_, hl, rfl⟩
    rw [token, meant, received_of_unquoted (h v hv), String.ofList_toList]

namespace Compiler

/-- The columns of a statement that are not named by its query. -/
def fixedColumns : List String := Grain.columns ++ ["metric_input", "metric_denominator"]

/-- **What a compiled statement computes.**  Over a horizon that ends before the calendar does, with
the days in the statement and no dimension named like a column of the compiler, every valid query
has a statement.  If no value of a filter has a quote, the values are read back as they are.  The
statement becomes a table that answers the query over any database whose lookup tables have their
keys, the days of the range taking the place of a table `spine`: so it answers the query over the
database itself unless the query reads a table of that name, and what such a table holds makes no
difference to it. -/
theorem compile_answers {c : Catalog} {start stop : Date} {s : Spine}
    (hs : Spine.ofHorizon start stop = .ok s) (hstop : stop < Date.last) (v : ValidQuery c s)
    (hnames : ∀ d ∈ v.query.dimensions, d ∉ fixedColumns) :
    ∃ tree m rows, (inlined c s).statement v.query = .ok tree ∧
      (inlined c s).compile v = .ok tree.render ∧ c.metric v.query.metric = .ok m ∧
      s.between v.query.start v.query.stop = .ok rows ∧
      ((∀ value ∈ v.query.filterValues, '\'' ∉ value.toList) →
        ∃ ls, tokens tree.render.toList = some (ls.map Lexeme.meant) ∧
          values ls = v.query.filterValues) ∧
      (∀ db tables, v.query.Keyed c (overDays rows tables) →
        v.query.Answers c db (overDays rows tables) m (tree.meaning db tables)) ∧
      (∀ db tables, ¬ v.query.Reads c "spine" → v.query.Keyed c tables →
        v.query.Answers c db tables m (tree.meaning db tables)) ∧
      ∀ db tables t, tree.meaning db (Function.update tables ["spine"] t) =
        tree.meaning db tables := by
  set k := inlined c s
  obtain ⟨m, ds, rows, hparts, -, -⟩ := exists_parts (k := k) hs hstop v
  obtain ⟨-, -, -, -, hrange, -⟩ := exists_lookups (k := k) v
  have hrows : DayRows rows v.query.start v.query.stop :=
    Spine.dayRows_of_between hs hrange (stop_lt_last (k := k) hs hstop v) hparts.rows
  have hm := c.metric_spelled (Catalog.mem_of_metric hparts.metric).1
  have hcolumns : (inputColumns m ++ v.query.dimensions).Nodup := by
    refine (nodup_append_iff (nodup_inputColumns m) v.nodup_dimensions).2 fun d hd hinput => ?_
    refine hnames d hd (List.mem_append.2 ?_)
    unfold inputColumns at hinput
    split at hinput <;> simp [Grain.columns, Grain.all] at hinput ⊢ <;> tauto
  have hgrid : (Grain.columns ++ v.query.dimensions).Nodup :=
    (nodup_append_iff (by decide) v.nodup_dimensions).2 fun d hd hday =>
      hnames d hd (List.mem_append_left _ hday)
  have htree := statement_eq_ok.2 ⟨m, ds, rows, hparts, rfl⟩
  have hanswers : ∀ db tables, v.query.Keyed c (overDays rows tables) →
      v.query.Answers c db (overDays rows tables) m
        ((assemble (spineBody .inline rows v.query.start v.query.stop) c.fact m ds v.query).meaning
          db tables) :=
    fun db tables => hparts.answers hm hcolumns hgrid hrows
  refine ⟨_, m, rows, htree, compile_eq_ok.2 ⟨_, htree, rfl⟩, hparts.metric, hparts.rows, ?_,
    hanswers, ?_, ?_⟩
  · intro hvalues
    have hspells := spells_statement (sourced_inlined c s) hparts
    have hpaired : ∀ value ∈ values (statementLexemes k m ds rows v.query),
        ¬ Unpaired value.toList := by
      rw [values_statement]
      exact fun value hvalue => not_unpaired fun hquote =>
        hvalues value hvalue (hquote.subset (List.mem_cons_of_mem _ List.mem_cons_self))
    refine ⟨statementLexemes k m ds rows v.query, ?_, values_statement⟩
    rw [hspells.text, tokens_eq_of_contained hspells.sound_self (forall_contained.2 hpaired),
      Lexeme.token_eq_meant]
    rwa [values_statement]
  · intro db tables hspine hkeyed
    have hsame : ∀ name, v.query.Reads c name →
        tableOf tables name = tableOf (overDays rows tables) name :=
      fun name hname => (tableOf_overDays hspine hname).symm
    exact (hanswers db tables (hkeyed.congr hsame)).congr fun name hname =>
      tableOf_overDays hspine hname
  · intro db tables t
    change Query.meaning db _ (assemble (spineBody .inline rows v.query.start v.query.stop) c.fact m
      ds v.query) = Query.meaning db _ (assemble (spineBody .inline rows _ _) c.fact m ds v.query)
    rw [← meaning_assemble_overDays, overDays, Function.update_idem, ← overDays,
      meaning_assemble_overDays]

end Compiler

/-! ### Visits that are counted, and visits that are hidden -/

/-- The value that stands for a key in the table that answers a query. -/
theorem MetricQuery.Answers.mem_rows {q : MetricQuery} {c : Catalog} {db : Engine} {tables : Tables}
    {m : Metric} {t : Table} (h : q.Answers c db tables m t) (key : Date × List Value)
    (hmeets : q.Meets key.1) (hobserved : q.Observed c db tables key.2) :
    .day key.1 :: key.2 ++ [total c tables m (q.countedIn c db tables key)] ∈ t.rows := by
  obtain ⟨lines, hrows, -, hkeys, -, hvalues⟩ := h.lines
  obtain ⟨l, hl, rfl⟩ := List.mem_map.1 ((hkeys key).2 ⟨hmeets, hobserved⟩)
  rw [hrows, ← hvalues l hl]
  exact List.mem_map_of_mem hl

/-- A row of that table has the value that stands for its key. -/
theorem MetricQuery.Answers.value_eq {q : MetricQuery} {c : Catalog} {db : Engine} {tables : Tables}
    {m : Metric} {t : Table} (h : q.Answers c db tables m t) {key : Date × List Value} {v : Value}
    (hrow : .day key.1 :: key.2 ++ [v] ∈ t.rows) :
    v = total c tables m (q.countedIn c db tables key) := by
  obtain ⟨lines, hrows, -, -, -, hvalues⟩ := h.lines
  rw [hrows] at hrow
  obtain ⟨l, hl, heq⟩ := List.mem_map.1 hrow
  obtain ⟨hperiod, hrest⟩ := List.cons.inj heq
  obtain ⟨hcombination, hvalue⟩ := List.append_inj' hrest rfl
  obtain rfl : l.key = key := Prod.ext (Value.day.inj hperiod) hcombination
  rw [← hvalues l hl]
  exact (List.head_eq_of_cons_eq hvalue).symm

namespace Visits

/-- A database that casts days alone to days, and orders nothing but days. -/
def engine : Engine where
  day?
    | .day d => some d
    | _ => none
  read _ s := .text s
  le
    | .day a, .day b => decide (a ≤ b)
    | .day _, _ => true
    | _, .day _ => false
    | _, _ => true
  day?_null := rfl
  day?_day _ := rfl
  read_text _ _ := rfl
  le_day _ _ := rfl
  le_trans a b c hab hbc := by
    cases a <;> cases b <;> cases c <;> simp_all
    exact Int.le_trans hab hbc
  le_total a b := by
    cases a <;> cases b <;> simp
    exact Int.le_total _ _

/-- Visits to two cities on one day; one of them has no number. -/
def tables : Tables := fun path =>
  if path = ["visits"] then
    ⟨["id", "city", "visited_on"],
      [[.number 1, .text "Lyon", .day newYear], [.number 2, .text "Lyon", .day newYear],
        [.null, .text "Lyon", .day newYear], [.number 4, .text "Paris", .day newYear]]⟩
  else ⟨[], []⟩

/-- Visits that stand in a table named like the days of a statement. -/
def hiddenCatalog : Catalog :=
  ⟨⟨"visits", "Visits", "", ⟨"spine", "date_day"⟩,
    [{ metric with sourceColumn := "date_week", allowedDimensions := [] }], []⟩, by rfl⟩

/-- The hidden visits of one day. -/
def hidden : ValidQuery hiddenCatalog spine :=
  ⟨⟨"visits", [], .empty, .day, newYear, newYear⟩, ⟨"visits", [], .empty, .day, newYear, newYear⟩,
    rfl, rfl⟩

end Visits

namespace Compiler

/-- Two visits to Lyon are counted.  Hidden visits are not: a day without any has one. -/
theorem compile_answers_visits :
    (∃ tree, (inlined Visits.catalog Visits.spine).statement (Visits.query "Lyon") = .ok tree ∧
      [.day Visits.newYear, .text "Lyon", .number 2] ∈
        (tree.meaning Visits.engine Visits.tables).rows) ∧
    ∃ tree m, (inlined Visits.hiddenCatalog Visits.spine).statement Visits.hidden.query = .ok tree ∧
      Visits.hiddenCatalog.metric "visits" = .ok m ∧
      ¬ Visits.hidden.query.Answers Visits.hiddenCatalog Visits.engine (fun _ => ⟨[], []⟩) m
        (tree.meaning Visits.engine fun _ => ⟨[], []⟩) := by
  constructor
  · obtain ⟨tree, m, rows, htree, -, hm, -, -, -, hanswers, -⟩ :=
      compile_answers Visits.ofHorizon_newYear (by decide) (Visits.valid "Lyon") (by decide)
    cases hm
    have hjoins : ∀ j, ¬ (Visits.query "Lyon").Follows Visits.catalog j := by
      rintro j ⟨d, hd, -, hjoin⟩
      obtain rfl : d = Visits.city := List.mem_singleton.1 hd
      cases hjoin
    have hspine : ¬ (Visits.query "Lyon").Reads Visits.catalog "spine" := by
      rintro (hname | ⟨j, hj, -⟩)
      · exact absurd hname (by decide)
      · exact hjoins j hj
    have hanswer := hanswers Visits.engine Visits.tables hspine fun j hj => absurd hj (hjoins j)
    have hcounted : (Visits.query "Lyon").counted Visits.catalog Visits.engine Visits.tables =
        [[.number 1, .text "Lyon", .day Visits.newYear],
          [.number 2, .text "Lyon", .day Visits.newYear],
          [.null, .text "Lyon", .day Visits.newYear]] := by
      decide
    have hobserved : (Visits.query "Lyon").Observed Visits.catalog Visits.engine Visits.tables
        [.text "Lyon"] := .inl ⟨_, hcounted ▸ List.mem_cons_self, rfl⟩
    have htotal : MetricQuery.total Visits.catalog Visits.tables Visits.metric
        ((Visits.query "Lyon").countedIn Visits.catalog Visits.engine Visits.tables
          (Visits.newYear, [.text "Lyon"])) = .number 2 := by decide
    have hmem := hanswer.mem_rows (Visits.newYear, [.text "Lyon"])
      ⟨Visits.newYear, Int.le_refl _, Int.le_refl _, rfl⟩ hobserved
    exact ⟨tree, htree, htotal ▸ hmem⟩
  · obtain ⟨tree, m, rows, htree, -, hm, hrows, -, hanswers, -, -⟩ :=
      compile_answers Visits.ofHorizon_newYear (by decide) Visits.hidden (by decide)
    refine ⟨tree, m, htree, hm, fun hanswer => ?_⟩
    cases hm
    cases hrows
    have hover := hanswers Visits.engine (fun _ => ⟨[], []⟩) fun j ⟨d, hd, _⟩ =>
      absurd hd List.not_mem_nil
    -- over the days in front, the one day is a visit
    have hcounted : Visits.hidden.query.counted Visits.hiddenCatalog Visits.engine
        (overDays [⟨Visits.newYear, Visits.monday, Visits.newYear, Visits.newYear,
          Visits.newYear⟩] fun _ => ⟨[], []⟩) ≠ [] := by decide
    obtain ⟨row, hrow⟩ := List.exists_mem_of_ne_nil _ hcounted
    have hmem := hover.mem_rows (Visits.newYear, [])
      ⟨Visits.newYear, Int.le_refl _, Int.le_refl _, rfl⟩ (.inl ⟨row, hrow, rfl⟩)
    exact absurd (hanswer.value_eq hmem) (by decide)

end Compiler

end SemanticLayer
