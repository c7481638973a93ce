import SemanticLayer.Proofs.Calendar.Days
import SemanticLayer.Proofs.Query.Containment
import SemanticLayer.Proofs.Query.Reading

/-
# Which compiled statements pass the gate

Every valid query over a horizon that ends before the calendar does has a
statement (`Compiler.exists_parts`).  Its final block compares the dimensions of
the facts with those of the grid, and every comparison takes two of the levels
that statements may nest, so a statement is read back with up to 23 dimensions
and is no SQL with more (`Compiler.parse_statement`).
-/

namespace SemanticLayer

open Sql

namespace Compiler

/-! ### Statements that only read -/

/-- **What is read of a statement writes nothing.** -/
theorem readOnly_readStatement (source : SpineSource) (rows : List DayRow) (start stop : Date)
    (fact : FactTable) (m : Metric) (ds : List Dimension) (q : MetricQuery) :
    (readStatement (spineBody source rows start stop) fact m ds q).readOnly = true := by
  have hspine : (spineBody source rows start stop).readOnly = true := by
    cases source with
    | inline => simp [spineBody, Body.readOnly]
    | table name => simp [spineBody, selectFrom, Body.readOnly]
  have hgrid : TableDef.allReadOnly [gridTable q.dimensions] = true := by
    unfold gridTable
    split <;> simp [ofSelect, selectFrom, TableDef.allReadOnly, Query.readOnly, Body.readOnly]
  simp only [readStatement, readFinalSelect, spineTable, factsTable, ofSelect, selectFrom,
    Query.readOnly, With.readOnly, TableDef.allReadOnly, Body.readOnly, hspine, List.isEmpty_nil,
    Option.isNone_none, Bool.and_true, Bool.true_and]
  exact hgrid

/-! ### Valid queries have statements -/

/-- **Every valid query finds its metric and its dimensions,** and none of its filters is empty. -/
theorem exists_lookups {k : Compiler} (v : ValidQuery k.catalog k.spine) :
    ∃ (m : Metric) (ds : List Dimension), k.catalog.metric v.query.metric = .ok m ∧
      (referenced v.query).map k.catalog.dimension = ds.map .ok ∧
      k.spine.checkRange v.query.start v.query.stop = .ok () ∧
      ∀ f ∈ v.query.filters.entries, f.2 ≠ [] := by
  obtain ⟨m, hv⟩ := v.valid
  have hfound : ∀ name ∈ referenced v.query, ∃ d, k.catalog.dimension name = .ok d := by
    intro name hn
    have hnamed := (List.filter_sublist.append_left v.query.dimensions).subset hn
    exact Catalog.exists_dimension (Catalog.mem_of_metric hv.metric).1 (hv.allows hnamed)
  obtain ⟨ds, hds⟩ := exists_map_eq_ok hfound
  exact ⟨m, ds, hv.metric, hds, hv.range,
    fun f hf => (Catalog.checkFilter_eq_ok.1 (hv.filters f hf)).2.1⟩

/-- **A valid query finds its days** if they do not include the last of the calendar. -/
theorem exists_parts_of_lt {k : Compiler} {start stop : Date}
    (hs : Spine.ofHorizon start stop = .ok k.spine) (v : ValidQuery k.catalog k.spine)
    (hlast : v.query.stop < Date.last) :
    ∃ m ds rows, k.Parts v.query m ds rows ∧ rows ≠ [] ∧
      ∀ f ∈ v.query.filters.entries, f.2 ≠ [] := by
  obtain ⟨m, ds, hm, hds, hrange, hfilters⟩ := exists_lookups v
  have hab : v.query.start.number ≤ v.query.stop.number := (Spine.checkRange_eq_ok.1 hrange).1
  obtain ⟨rows, hrows, hcount⟩ := Spine.exists_between hs hrange hlast
  refine ⟨m, ds, rows, ⟨hm, hds, hrows⟩, ?_, hfilters⟩
  rintro rfl
  rw [List.length_nil] at hcount
  omega

/-- A valid query over a horizon that ends before the calendar does ends before it too. -/
theorem stop_lt_last {k : Compiler} {start stop : Date}
    (hs : Spine.ofHorizon start stop = .ok k.spine) (hstop : stop < Date.last)
    (v : ValidQuery k.catalog k.spine) : v.query.stop < Date.last := by
  obtain ⟨m, ds, -, -, hrange, -⟩ := exists_lookups v
  have hend : v.query.stop ≤ k.spine.stop :=
    (Spine.contains_iff.1 (Spine.checkRange_eq_ok.1 hrange).2.2).2
  rw [(Spine.length_ofHorizon hs).2.1] at hend
  exact Int.lt_of_le_of_lt hend hstop

/-- **Every valid query has its parts** over a horizon that ends before the calendar does. -/
theorem exists_parts {k : Compiler} {start stop : Date}
    (hs : Spine.ofHorizon start stop = .ok k.spine)
    (hstop : stop < Date.last) (v : ValidQuery k.catalog k.spine) :
    ∃ m ds rows, k.Parts v.query m ds rows ∧ rows ≠ [] ∧
      ∀ f ∈ v.query.filters.entries, f.2 ≠ [] :=
  exists_parts_of_lt hs v (stop_lt_last hs hstop v)

/-! ### The gate -/

/-- What is read of the text of a statement. -/
theorem parse_statement {k : Compiler} (hk : k.Sourced) {q : MetricQuery} {m : Metric}
    {ds : List Dimension} {rows : List DayRow} (h : k.Parts q m ds rows) (hrows : rows ≠ [])
    (hfilters : ∀ f ∈ q.filters.entries, f.2 ≠ [])
    (hvalues : ∀ value ∈ q.filterValues, ¬ Unpaired value.toList) :
    parse (assemble (spineBody k.source rows q.start q.stop) k.catalog.fact m ds q).render =
      .ok (if q.dimensions.length ≤ 23 then
        some [.query (readStatement (spineBody k.source rows q.start q.stop) k.catalog.fact m ds q)]
      else none) := by
  have hspells := spells_statement hk h
  have hsound := hspells.sound_self
  have hcontained : ∀ l ∈ statementLexemes k m ds rows q, l.Contained := by
    rw [forall_contained, values_statement]
    exact hvalues
  have htokens := tokens_eq_of_contained hsound hcontained
  rw [← hspells.text] at htokens
  have hyields : ∀ {b : Nat}, (shown (statementLexemes k m ds rows q)).length < b →
      Reader.Yields (Grammar.queryAbove (level b 48)) (shown (statementLexemes k m ds rows q))
        (if q.dimensions.length ≤ 23 then
          some (readStatement (spineBody k.source rows q.start q.stop) k.catalog.fact m ds q, [])
        else none) := by
    intro b hb
    have hread := yields_statement h hrows hfilters (d := 48) (by decide) hb
    simp only [show 2 * q.dimensions.length < 48 ↔ q.dimensions.length ≤ 23 by omega] at hread
    exact hread
  rw [statementLexemes, shown_query] at hyields
  have hparse := parse_of_yields htokens (by rw [← shown_query]; rfl) hyields (by
    intro p hp
    split at hp
    · cases hp
      rfl
    · cases hp)
  rw [hparse]
  split <;> rfl

/-- **The gate lets a statement pass** when it can be read. -/
theorem checkReadOnly_statement {k : Compiler} (hk : k.Sourced) {q : MetricQuery} {m : Metric}
    {ds : List Dimension} {rows : List DayRow} (h : k.Parts q m ds rows) (hrows : rows ≠ [])
    (hfilters : ∀ f ∈ q.filters.entries, f.2 ≠ [])
    (hvalues : ∀ value ∈ q.filterValues, ¬ Unpaired value.toList) :
    checkReadOnly (assemble (spineBody k.source rows q.start q.stop) k.catalog.fact m ds q).render =
      if q.dimensions.length ≤ 23 then .ok () else .error (.error .unreadable) := by
  rw [checkReadOnly, parse_statement hk h hrows hfilters hvalues]
  by_cases hfew : q.dimensions.length ≤ 23
  · rw [if_pos hfew, if_pos hfew]
    exact if_pos (readOnly_readStatement _ _ _ _ _ _ _ _)
  · rw [if_neg hfew, if_neg hfew]

/-- A query that groups its rows by some terms, orders them by these terms and lists them before a
value. -/
def GroupsBy (terms : List Expr) (value : Item) (tree : Query) : Prop :=
  ∃ tables sources, tree = .mk tables
    (.select (.mk [] (terms.map .expr ++ [value]) none sources [] none terms [] none []))
    (terms.map fun e => (e, "")) [] [] ""

/-- A value without a quote behind a backslash is paired. -/
theorem not_unpaired {value : List Char} (h : ¬ ['\\', '\''] <:+: value) : ¬ Unpaired value := by
  rintro ⟨before, after, rfl, hodd⟩
  cases after with
  | nil => cases hodd
  | cons c after =>
    by_cases hc : c = '\''
    · exact h ⟨before, after, by simp [hc]⟩
    · simp [leadingQuotes, hc] at hodd

/-- **A statement passes the gate with up to 23 dimensions, and is no SQL with more.**  A horizon
that ends before the calendar, in the statement or in a table, gives every valid query a statement.
If no value of a filter has a quote behind a backslash, the statement of at most 23 dimensions is
read as one query, which is grouped and ordered by the period and the dimensions in their order and
lists them before the value; with more dimensions it cannot be read. -/
theorem compile_accepted {c : Catalog} {start stop : Date} {s : Spine} {k : Compiler}
    (hs : Spine.ofHorizon start stop = .ok s) (hstop : stop < Date.last)
    (hk : k = inlined c s ∨ ∃ name, (inlined c s).withSpineTable name = .ok k) (v : ValidQuery c s)
    (hvalues : ∀ value ∈ v.query.filterValues, ¬ ['\\', '\''] <:+: value.toList) :
    ∃ sql m, k.compile v = .ok sql ∧ c.metric v.query.metric = .ok m ∧
      (v.query.dimensions.length ≤ 23 →
        (∃ tree, parse sql = .ok (some [.query tree]) ∧
          GroupsBy (plainColumn "grid" v.query.grain.column ::
            v.query.dimensions.map (column "grid"))
            (.aliased (readValue m) (.quoted m.name)) tree) ∧
        checkReadOnly sql = .ok ()) ∧
      (23 < v.query.dimensions.length →
        parse sql = .ok none ∧ checkReadOnly sql = .error (.error .unreadable)) := by
  have hsourced : k.Sourced ∧ k.catalog = c ∧ k.spine = s := by
    rcases hk with rfl | ⟨name, hname⟩
    · exact ⟨sourced_inlined c s, rfl, rfl⟩
    · refine ⟨sourced_withSpineTable hname, ?_⟩
      unfold withSpineTable at hname
      split at hname
      · cases hname
        exact ⟨rfl, rfl⟩
      · cases hname
  obtain ⟨hsource, rfl, rfl⟩ := hsourced
  obtain ⟨m, ds, rows, hparts, hrows, hfilters⟩ := exists_parts hs hstop v
  have hpaired := fun value hvalue => not_unpaired (hvalues value hvalue)
  have hparse := parse_statement hsource hparts hrows hfilters hpaired
  have hgate := checkReadOnly_statement hsource hparts hrows hfilters hpaired
  refine ⟨_, m, compile_eq_ok.2 ⟨_, statement_eq_ok.2 ⟨m, ds, rows, hparts, rfl⟩, rfl⟩,
    hparts.metric, fun hfew => ?_, fun hmany => ?_⟩
  · rw [if_pos hfew] at hparse hgate
    exact ⟨⟨_, hparse, _, _, rfl⟩, hgate⟩
  · rw [if_neg (Nat.not_le.2 hmany)] at hparse hgate
    exact ⟨hparse, hgate⟩

end Compiler

namespace Visits

/-- The names of 24 dimensions. -/
def letters : List String :=
  ["a", "b", "c", "d", "e", "f", "g", "h", "i", "j", "k", "l", "m", "n", "o", "p", "q", "r", "s",
    "t", "u", "v", "w", "x"]

/-- Visits that may be split by all of them. -/
def wideCatalog : Catalog :=
  ⟨⟨"visits", "Visits", "", ⟨"visits", "visited_on"⟩,
    [{ metric with allowedDimensions := letters }],
    letters.map fun l => ⟨l, "", "", l, none, [], []⟩⟩, by rfl⟩

/-- The visits split by all of them. -/
def wide : ValidQuery wideCatalog spine :=
  ⟨⟨"visits", letters, .empty, .day, newYear, newYear⟩,
    ⟨"visits", letters, .empty, .day, newYear, newYear⟩, rfl, rfl⟩

end Visits

namespace Compiler

/-- One visit to a city is counted by a statement that passes; 24 dimensions are too many. -/
theorem compile_accepted_visits :
    (∃ sql, (inlined Visits.catalog Visits.spine).compile (Visits.valid "Lyon") = .ok sql ∧
      checkReadOnly sql = .ok ()) ∧
    ∃ sql, (inlined Visits.wideCatalog Visits.spine).compile Visits.wide = .ok sql ∧
      checkReadOnly sql = .error (.error .unreadable) := by
  obtain ⟨sql, m, hsql, -, hfew, -⟩ :=
    compile_accepted Visits.ofHorizon_newYear (by decide) (.inl rfl)
    (Visits.valid "Lyon") (by decide)
  obtain ⟨sql', m', hsql', -, -, hmany⟩ := compile_accepted Visits.ofHorizon_newYear (by decide)
    (.inl rfl) Visits.wide nofun
  exact ⟨⟨sql, hsql, (hfew (by decide)).2⟩, sql', hsql', (hmany (by decide)).2⟩

end Compiler

end SemanticLayer
