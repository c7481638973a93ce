import SemanticLayer.Proofs.Query.Spelling

/-
# Whether the values of filters stay literals

Two queries of one shape differ in nothing but the values of their filters.
Their statements have the same lexemes but for these values, so one template
describes both: fixed tokens, all of whose words the compiler knows, and an
open place for every value.  A statement fits its template exactly when no
value has a backslash with an odd number of quotes behind it
(`Compiler.exists_template`); such a value ends its literal early, and what
stands behind it is read as syntax.
-/

namespace SemanticLayer

open Sql

namespace Sql

/-- The value that a lexeme holds. -/
def Lexeme.value? : Lexeme → Option String
  | fixed _ => none
  | value v => some v

/-- The values among lexemes, in order. -/
def values (ls : List Lexeme) : List String := ls.filterMap Lexeme.value?

theorem values_append (ls ms : List Lexeme) : values (ls ++ ms) = values ls ++ values ms :=
  List.filterMap_append ..

theorem values_lits (texts : List String) : values (lits texts) = [] := by
  simp [values, lits, Lexeme.value?]

theorem values_name (n : Name) : values [n.lexeme] = [] := by
  unfold Name.lexeme
  split <;> rfl

theorem values_path (path : List Name) : values (pathLexemes path) = [] := by
  induction path with
  | nil => rfl
  | cons n path ih =>
    cases path with
    | nil => exact values_name n
    | cons m path =>
      have hsplit : pathLexemes (n :: m :: path) =
          [n.lexeme] ++ ([.fixed (.symbol ".")] ++ pathLexemes (m :: path)) := rfl
      rw [hsplit, values_append, values_append, values_name, ih]
      rfl

theorem values_commas (lss : List (List Lexeme)) :
    values (commaLexemes lss) = lss.flatMap values := by
  induction lss with
  | nil => rfl
  | cons ls lss ih =>
    cases lss with
    | nil => simp [commaLexemes]
    | cons ms lss =>
      rw [commaLexemes, values_append, values_append, ih, values_lits]
      · simp
      · nofun

/-- Only what is contained has to be looked at. -/
theorem forall_contained {ls : List Lexeme} :
    (∀ l ∈ ls, l.Contained) ↔ ∀ v ∈ values ls, ¬ Unpaired v.toList := by
  induction ls with
  | nil => simp [values]
  | cons l ls ih =>
    rw [List.forall_mem_cons, ih]
    cases l with
    | fixed t => simp [values, Lexeme.value?, Lexeme.Contained]
    | value v => simp [values, Lexeme.value?, Lexeme.Contained, contained_iff]

/-- A template has an open place for every value. -/
theorem count_literal (ls : List Lexeme) :
    (ls.map Lexeme.slot).count .literal = (values ls).length := by
  induction ls with
  | nil => rfl
  | cons l ls ih =>
    cases l with
    | fixed t =>
      rw [List.map_cons, List.count_cons_of_ne (by nofun), ih]
      rfl
    | value v =>
      rw [List.map_cons, Lexeme.slot, List.count_cons_self, ih]
      rfl

end Sql

/-- All values of a query's filters, in the order of their keys. -/
def MetricQuery.filterValues (q : MetricQuery) : List String := q.filters.entries.flatMap Prod.snd

/-- Two queries that differ in nothing but the values of their filters. -/
structure MetricQuery.SameShape (q r : MetricQuery) : Prop where
  metric : r.metric = q.metric
  dimensions : r.dimensions = q.dimensions
  grain : r.grain = q.grain
  start : r.start = q.start
  stop : r.stop = q.stop
  filters : (r.filters.entries.map fun f => (f.1, f.2.length)) =
    q.filters.entries.map fun f => (f.1, f.2.length)

namespace Compiler

variable {k : Compiler} {q r : MetricQuery} {m : Metric} {ds : List Dimension} {rows : List DayRow}

/-! ### The values in a statement -/

theorem values_filterLexemes {e : List Lexeme} (he : values e = []) (vs : List String) :
    values (filterLexemes e vs) = vs := by
  have hsingle : ∀ v, values [.value v] = [v] := fun _ => rfl
  have hlist : ∀ vs : List String, values (inLexemes e (vs.map fun v => [.value v])) = vs := by
    intro vs
    rw [inLexemes, values_append, values_append, values_append, values_commas, he, values_lits,
      values_lits, List.flatMap_map]
    simp [hsingle]
  match vs with
  | [] => exact hlist []
  | [v] =>
    rw [filterLexemes, binaryLexemes, values_append, values_append, he, values_lits]
    rfl
  | v :: w :: vs => exact hlist (v :: w :: vs)

theorem values_conjunction (first : List Lexeme) (more : List (List Lexeme)) :
    values (conjunctionLexemes first more) = values first ++ more.flatMap values := by
  induction more generalizing first with
  | nil => simp [conjunctionLexemes]
  | cons e more ih =>
    have hstep : conjunctionLexemes first (e :: more) =
        conjunctionLexemes (binaryLexemes first e "AND") more := rfl
    rw [hstep, ih, binaryLexemes, values_append, values_append, values_lits]
    simp

theorem values_date (text : String) : values (dateLexemes text) = [] := by
  rw [dateLexemes, values_append, values_lits]
  rfl

theorem values_inRange {e : List Lexeme} (he : values e = []) (start stop : Date) :
    values (inRangeLexemes e start stop) = [] := by
  simp [inRangeLexemes, betweenLexemes, values_append, values_lits, values_date, he]

theorem values_table (name : List Name) (called : Option Name) :
    values (tableLexemes name called) = [] := by
  cases called <;>
    simp [tableLexemes, clauseLexemes, values_append, values_lits, values_path, values_name]

theorem values_select (distinct : Bool) (items : List (List Lexeme))
    (source condition : Option (List Lexeme)) (groups : List (List Lexeme)) :
    values (selectLexemes distinct items source condition groups) = items.flatMap values ++
      (source.map values).getD [] ++ (condition.map values).getD [] ++ groups.flatMap values := by
  have hclause : ∀ (ls : List Lexeme) (texts : List String) (clause : Option (List Lexeme)),
      values (clauseLexemes ls texts clause) = values ls ++ (clause.map values).getD [] := by
    intro ls texts clause
    cases clause <;> simp [clauseLexemes, values_append, values_lits]
  cases groups <;>
    simp [selectLexemes, hclause, values_append, values_lits, values_commas]

theorem values_alias (a : Alias) : values a.lexemes = [] := by
  unfold Alias.lexemes
  split
  · exact values_name _
  · rw [values_append, values_append, values_append, values_name, values_lits, values_lits,
      values_commas]
    simp [values_name, List.flatMap_map]

theorem values_aliased {e : List Lexeme} (he : values e = []) (name : Name) :
    values (aliasedLexemes e name) = [] := by
  simp [aliasedLexemes, values_append, values_lits, values_name, he]

theorem values_join {words : List String} {table : List Lexeme} {condition : Option (List Lexeme)}
    (ht : values table = []) (hc : (condition.map values).getD [] = []) :
    values (joinLexemes words table condition) = [] := by
  cases condition with
  | none => simp [joinLexemes, clauseLexemes, values_append, values_lits, ht]
  | some c =>
    have hc : values c = [] := hc
    simp [joinLexemes, clauseLexemes, values_append, values_lits, ht, hc]

theorem values_binary (left right : List Lexeme) (operator : String) :
    values (binaryLexemes left right operator) = values left ++ values right := by
  simp [binaryLexemes, values_append, values_lits]

theorem values_column (table w : String) : values (columnLexemes table w) = [] := values_path _

theorem values_plainColumn (table w : String) : values (plainColumnLexemes table w) = [] :=
  values_path _

theorem values_factDate (fact : FactTable) : values (factDateLexemes fact) = [] := by
  simp [factDateLexemes, castLexemes, values_append, values_lits, values_column]

theorem values_factItems (fact : FactTable) :
    (factItemLexemes fact m ds q).flatMap values = [] := by
  have hdenominator : (denominatorLexemes m).flatMap values = [] := by
    unfold denominatorLexemes
    split
    · simp [values_aliased (values_column _ _)]
    · rfl
  simp [factItemLexemes, hdenominator, values_aliased (values_factDate fact),
    values_aliased (values_column _ _), values_aliased (values_path _), List.flatMap_map]

theorem values_factSource (fact : FactTable) : values (factSourceLexemes fact ds) = [] := by
  have hjoin : ∀ j, values (lookupJoinLexemes (joinsOf ds) j) = [] := fun j =>
    values_join (values_table _ _) (by simp [values_binary, values_column])
  have hflat : ∀ joins : List Join,
      values (joins.flatMap (lookupJoinLexemes (joinsOf ds))) = [] := by
    intro joins
    induction joins with
    | nil => rfl
    | cons j joins ih => rw [List.flatMap_cons, values_append, hjoin, ih, List.append_nil]
  rw [factSourceLexemes, values_append, values_table, hflat, List.append_nil]

/-- The filters of a query hold its values. -/
theorem values_factCondition (fact : FactTable) :
    values (factConditionLexemes fact ds q) = q.filterValues := by
  rw [factConditionLexemes, values_conjunction, values_inRange (values_factDate fact),
    List.nil_append, List.flatMap_map, MetricQuery.filterValues]
  exact congrArg (q.filters.entries.flatMap ·)
    (funext fun f => values_filterLexemes (values_path _) f.2)

theorem values_spineBody (source : SpineSource) (start stop : Date) :
    values (spineBodyLexemes source rows start stop) = [] := by
  cases source with
  | inline =>
    simp [spineBodyLexemes, valuesLexemes, values_append, values_lits, values_commas, values_date,
      List.flatMap_map]
  | table name =>
    simp [spineBodyLexemes, values_select, values_table, values_inRange, values_name,
      List.flatMap_map]

theorem values_gridTable (dimensions : List String) :
    values (gridTableLexemes dimensions) = [] := by
  have hone : values [Lexeme.fixed (.number "1" false)] = [] := rfl
  have hcombinations : values (combinationsLexemes dimensions) = [] := by
    simp [combinationsLexemes, unionLexemes, notExistLexemes, values_append, values_lits,
      values_select, values_name, values_aliased, values_table, List.flatMap_map, hone]
  have hderived : values (joinLexemes ["CROSS", " ", "JOIN", " "] (lits ["("] ++
      combinationsLexemes dimensions ++ lits [")", " ", "AS", " "] ++ [Name.lexeme (.bare "dims")])
      none) = [] :=
    values_join (by simp [values_append, values_lits, values_name, hcombinations]) rfl
  unfold gridTableLexemes tableDefLexemes
  split
  · simp [values_append, values_lits, values_alias, values_select, values_table, values_plainColumn,
      List.flatMap_map]
  · simp only [values_append, values_lits, values_alias, values_select, Option.map_some,
      Option.getD_some, values_table, hderived]
    simp [values_plainColumn, values_column, List.flatMap_map]

theorem values_groupTerms : (groupTermLexemes q).flatMap values = [] := by
  simp [groupTermLexemes, values_plainColumn, values_column, List.flatMap_map]

theorem values_finalSelect : values (finalSelectLexemes m q) = [] := by
  have hzero : values [Lexeme.fixed (.number "0" false)] = [] := rfl
  have hcall : ∀ f args, values (callLexemes f args) = args.flatMap values := by
    intro f args
    simp [callLexemes, values_append, values_lits, values_commas]
  have haggregate :
      ∀ i d a, values i = [] → values d = [] → values (aggregateLexemes i d a) = [] := by
    intro i d a hi hd
    cases a <;>
      simp [aggregateLexemes, hcall, values_binary, castLexemes, values_append, values_lits, hi, hd,
        hzero]
  have hvalue : values (valueLexemes m) = [] :=
    values_aliased (haggregate _ _ _ (values_plainColumn _ _) (values_plainColumn _ _)) _
  have hcondition : values (gridConditionLexemes q) = [] := by
    simp [gridConditionLexemes, values_conjunction, values_binary, values_plainColumn,
      distinctLexemes, values_append, values_lits, values_column, List.flatMap_map]
  have hjoin : values (joinLexemes ["LEFT", " ", "JOIN", " "] (tableLexemes [.bare "facts"] none)
      (some (gridConditionLexemes q))) = [] :=
    values_join (values_table _ _) (by simpa using hcondition)
  simp [finalSelectLexemes, values_select, values_append, values_groupTerms, hvalue, values_table,
    hjoin]

/-- **The values in a statement are those of the filters,** in the order of their keys. -/
theorem values_statement : values (statementLexemes k m ds rows q) = q.filterValues := by
  simp [statementLexemes, queryLexemes, spineTableLexemes, factsTableLexemes, tableDefLexemes,
    values_append, values_lits, values_commas, values_alias, values_spineBody, values_select,
    values_factItems, values_factSource, values_factCondition, values_gridTable, values_finalSelect,
    values_groupTerms]

/-! ### Templates -/

/-- Conditions of one shape have one template. -/
theorem slots_conjunction {first : List Lexeme} {more more' : List (List Lexeme)}
    (h : more.map (·.map Lexeme.slot) = more'.map (·.map Lexeme.slot)) :
    (conjunctionLexemes first more).map Lexeme.slot =
      (conjunctionLexemes first more').map Lexeme.slot := by
  have hgo : ∀ first first' : List Lexeme, first.map Lexeme.slot = first'.map Lexeme.slot →
      (conjunctionLexemes first more).map Lexeme.slot =
        (conjunctionLexemes first' more').map Lexeme.slot := by
    induction more generalizing more' with
    | nil =>
      cases more' with
      | nil => exact fun _ _ h => h
      | cons => cases h
    | cons e more ih =>
      cases more' with
      | nil => cases h
      | cons e' more' =>
        obtain ⟨he, hmore⟩ := List.cons.inj h
        intro first first' hfirst
        refine ih hmore _ _ ?_
        simp only [binaryLexemes, List.map_append, hfirst, he]
  exact hgo first first rfl

/-- Values do not show in the template of their filter, but for how many they are. -/
theorem slots_filter (e : List Lexeme) {vs vs' : List String} (h : vs'.length = vs.length) :
    (filterLexemes e vs').map Lexeme.slot = (filterLexemes e vs).map Lexeme.slot := by
  have hlist : ∀ {vs vs' : List String}, vs'.length = vs.length →
      (inLexemes e (vs'.map fun v => [.value v])).map Lexeme.slot =
        (inLexemes e (vs.map fun v => [.value v])).map Lexeme.slot := by
    intro vs vs' h
    have hcommas : ∀ vs : List String, (commaLexemes (vs.map fun v => [.value v])).map Lexeme.slot =
        (commaLexemes ((List.replicate vs.length "").map fun v => [.value v])).map Lexeme.slot := by
      intro vs
      induction vs with
      | nil => rfl
      | cons v vs ih =>
        cases vs with
        | nil => rfl
        | cons w vs =>
          simp only [List.map_cons, List.length_cons, List.replicate_succ, commaLexemes,
            List.map_append] at ih ⊢
          rw [ih]
          rfl
    simp only [inLexemes, List.map_append]
    rw [hcommas vs', hcommas vs, h]
  match vs, vs', h with
  | [], [], _ => rfl
  | [v], [v'], _ =>
    simp only [filterLexemes, binaryLexemes, List.map_append]
    rfl
  | _ :: _ :: _, _ :: _ :: _, h => exact hlist h

/-- **Queries of one shape have one template.** -/
theorem slots_statement (h : q.SameShape r) :
    (statementLexemes k m ds rows r).map Lexeme.slot =
      (statementLexemes k m ds rows q).map Lexeme.slot := by
  have hfilters : ∀ entries : List (String × List String),
      (entries.map fun f => filterLexemes (pathLexemes (columnPath ds f.1)) f.2).map
          (·.map Lexeme.slot) =
        (entries.map fun f => (f.1, f.2.length)).map fun f =>
          (filterLexemes (pathLexemes (columnPath ds f.1)) (List.replicate f.2 "")).map
            Lexeme.slot := by
    intro entries
    rw [List.map_map, List.map_map]
    exact List.map_congr_left fun f _ => slots_filter _ (by rw [List.length_replicate])
  have hcondition : (factConditionLexemes k.catalog.fact ds r).map Lexeme.slot =
      (factConditionLexemes k.catalog.fact ds q).map Lexeme.slot := by
    rw [factConditionLexemes, factConditionLexemes, h.start, h.stop]
    exact slots_conjunction (by rw [hfilters, hfilters, h.filters])
  have hitems : factItemLexemes k.catalog.fact m ds r = factItemLexemes k.catalog.fact m ds q := by
    simp only [factItemLexemes, h.dimensions]
  have hterms : groupTermLexemes r = groupTermLexemes q := by
    simp only [groupTermLexemes, h.dimensions, h.grain]
  have hfinal : finalSelectLexemes m r = finalSelectLexemes m q := by
    simp only [finalSelectLexemes, gridConditionLexemes, hterms, h.dimensions]
  simp only [statementLexemes, queryLexemes, commaLexemes, factsTableLexemes, tableDefLexemes,
    selectLexemes, clauseLexemes, List.isEmpty_nil, if_true, List.map_append, hcondition, hitems,
    hterms, hfinal, h.start, h.stop, h.dimensions]

/-- Queries of one shape have the same parts. -/
theorem Parts.of_sameShape (h : k.Parts q m ds rows) (hs : q.SameShape r) :
    k.Parts r m ds rows := by
  have hkeys : r.filters.keys = q.filters.keys := by
    have hfst := congrArg (List.map Prod.fst) hs.filters
    simpa only [Filters.keys, List.map_map, Function.comp_def] using hfst
  refine ⟨?_, ?_, ?_⟩
  · rw [hs.metric]
    exact h.metric
  · have hreferenced : referenced r = referenced q := by
      simp only [referenced, hs.dimensions, hkeys]
    rw [hreferenced]
    exact h.dimensions
  · rw [hs.start, hs.stop]
    exact h.rows

/-- **The values of filters stay literals unless a backslash has an odd number of
quotes behind it.**
For a query that has a statement there is a template: fixed tokens, each word of which belongs to
the vocabulary, and one open place for every value.  Every query of the same shape has a statement,
and its tokens are those of the template, with a string in every open place and nothing else
changed, exactly when none of its values is unpaired. -/
theorem exists_template (hk : k.Sourced) {c : Catalog} {s : Spine} {v : ValidQuery c s}
    {sql : String}
    (hv : k.compile v = .ok sql) :
    ∃ template : List Slot,
      (∀ t, .fixed t ∈ template → t.Known k.Vocabulary) ∧
      template.count .literal = v.query.filterValues.length ∧
      ∀ w : ValidQuery c s, v.query.SameShape w.query →
        ∃ sql', k.compile w = .ok sql' ∧
          (Fits template sql'.toList ↔
            ∀ value ∈ w.query.filterValues, ¬ Unpaired value.toList) := by
  obtain ⟨tree, htree, -⟩ := compile_eq_ok.1 hv
  obtain ⟨m, ds, rows, hparts, -⟩ := statement_eq_ok.1 htree
  refine ⟨(statementLexemes k m ds rows v.query).map Lexeme.slot, fun t ht => ?_, ?_,
    fun w hw => ?_⟩
  · obtain ⟨l, hl, hslot⟩ := List.mem_map.1 ht
    have hknown := (spells_statement hk hparts).known l hl
    cases l with
    | fixed t' =>
      cases hslot
      exact hknown
    | value v => cases hslot
  · rw [count_literal, values_statement]
  · have hparts' := hparts.of_sameShape hw
    have hspells := spells_statement hk hparts'
    refine ⟨_, compile_eq_ok.2 ⟨_, statement_eq_ok.2 ⟨m, ds, rows, hparts', rfl⟩, rfl⟩, ?_⟩
    have hsound := hspells.sound_self
    rw [← slots_statement hw, hspells.text, fits_iff_contained hsound, forall_contained,
      values_statement]

/-- A name that ends in a backslash and a quote leaves its place, another one does not. -/
theorem exists_template_visits :
    ∃ (template : List Slot) (sql sql' : String),
      (inlined Visits.catalog Visits.spine).compile (Visits.valid "Lyon") = .ok sql ∧
      (inlined Visits.catalog Visits.spine).compile (Visits.valid "\\'") = .ok sql' ∧
      Fits template sql.toList ∧ ¬ Fits template sql'.toList := by
  have hcompile : (inlined Visits.catalog Visits.spine).compile (Visits.valid "Lyon") = .ok _ :=
    compile_eq_ok.2 ⟨_, statement_eq_ok.2 ⟨_, _, _, parts_visits "Lyon", rfl⟩, rfl⟩
  obtain ⟨template, -, -, hfits⟩ := exists_template (sourced_inlined _ _) hcompile
  obtain ⟨sql, hsql, hiff⟩ := hfits (Visits.valid "Lyon") ⟨rfl, rfl, rfl, rfl, rfl, rfl⟩
  obtain ⟨sql', hsql', hiff'⟩ := hfits (Visits.valid "\\'") ⟨rfl, rfl, rfl, rfl, rfl, rfl⟩
  refine ⟨template, sql, sql', hsql, hsql', hiff.2 ?_, fun h => hiff'.1 h "\\'" (.head _) ?_⟩
  · intro value hvalue
    obtain rfl : value = "Lyon" := List.mem_singleton.1 hvalue
    exact contained_iff.1 (by decide)
  · exact ⟨[], ['\''], rfl, rfl⟩

end Compiler

end SemanticLayer
