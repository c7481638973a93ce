import SemanticLayer.Proofs.Query.Acceptance
import SemanticLayer.Proofs.Query.FirstFailure

/-
# What a compiler asks of a query

A query that one catalog and spine accept may be compiled with others.  The
compiler then looks up everything again: the metric, the selected dimensions,
the dimensions that only filters name, and the days of the range
(`Compiler.requirements`).  Nothing else is asked (`Compiler.needs_statement`),
so a query has a statement exactly when all of this is found, and always under
the catalog and the spine that accepted it (`Compiler.compile_first_failure`).
-/

namespace SemanticLayer

/-! ### What is asked -/

/-- The catalog is asked for a metric. -/
def Catalog.metricDefined (c : Catalog) (name : String) : Requirement CatalogError :=
  ⟨∃ m ∈ c.metrics, m.name = name, .unknownMetric name⟩

/-- The catalog is asked for a dimension. -/
def Catalog.dimensionDefined (c : Catalog) (name : String) : Requirement CatalogError :=
  ⟨∃ d ∈ c.dimensions, d.name = name, .unknownDimension name⟩

/-- The spine is asked for a day. -/
def Spine.dayCovered (s : Spine) (d : Date) : Requirement RangeError :=
  ⟨s.Covers d, .outOfHorizon d s.start s.stop⟩

namespace Compiler

variable {k : Compiler} {q : MetricQuery}

/-- What is asked of a query, in the order in which it is looked up: the metric, the selected
dimensions, the keys of filters that are not selected, and the start and the end of the range. -/
def requirements (k : Compiler) (q : MetricQuery) : List (Requirement CompileError) :=
  (k.catalog.metricDefined q.metric ::
      (q.dimensions ++ q.filters.keys.filter (· ∉ q.dimensions)).map
        k.catalog.dimensionDefined).map (Requirement.map .catalog) ++
    [k.spine.dayCovered q.start, k.spine.dayCovered q.stop].map (Requirement.map .range)

/-- **All of it is met** when each name is defined, wherever the query has it, and both dates are
days of the horizon. -/
theorem forall_requirements_iff :
    (∀ r ∈ k.requirements q, r.met) ↔
      (∃ m ∈ k.catalog.metrics, m.name = q.metric) ∧
      (∀ name, name ∈ q.dimensions ∨ name ∈ q.filters.keys →
        ∃ d ∈ k.catalog.dimensions, d.name = name) ∧
      k.spine.Covers q.start ∧ k.spine.Covers q.stop := by
  have hnamed : ∀ name, name ∈ q.dimensions ++ q.filters.keys.filter (· ∉ q.dimensions) ↔
      name ∈ q.dimensions ∨ name ∈ q.filters.keys := by
    intro name
    rw [List.mem_append, List.mem_filter, decide_eq_true_iff]
    tauto
  rw [requirements, List.forall_mem_append, List.forall_mem_map, List.forall_mem_cons,
    List.forall_mem_map, List.forall_mem_map, List.forall_mem_cons, List.forall_mem_singleton]
  simp only [hnamed, and_assoc]
  exact Iff.rfl

/-! ### What the steps need -/

theorem needs_metric (c : Catalog) (name : String) :
    Needs [c.metricDefined name] (c.metric name) := by
  refine Needs.single (fun ⟨m, hm⟩ => ⟨m, Catalog.metric_eq_ok_iff.2 hm⟩) fun hnone => ?_
  have hfind : c.metrics.find? (·.name == name) = none :=
    List.find?_eq_none.2 fun m hm h => hnone ⟨m, hm, eq_of_beq h⟩
  rw [Catalog.metric, hfind]

theorem needs_dimension (c : Catalog) (name : String) :
    Needs [c.dimensionDefined name] (c.dimension name) := by
  refine Needs.single (fun ⟨d, hd⟩ => ⟨d, Catalog.dimension_eq_ok_iff.2 hd⟩) fun hnone => ?_
  have hfind : c.dimensions.find? (·.name == name) = none :=
    List.find?_eq_none.2 fun d hd h => hnone ⟨d, hd, eq_of_beq h⟩
  rw [Catalog.dimension, hfind]

theorem needs_ofCatalog {α : Type} {rs : List (Requirement CatalogError)}
    {x : Except CatalogError α} (h : Needs rs x) :
    Needs ((rs.map (Requirement.map .catalog)).map (Requirement.map .error)) (ofCatalog x) := by
  have hwords : ofCatalog x = (x.mapError CompileError.catalog).mapError Fault.error := by
    cases x <;> rfl
  rw [hwords]
  exact h.mapError.mapError

/-- **The days of an ordered range** need only its ends to be in the horizon, if that ends before
the calendar does. -/
theorem needs_days {start stop : Date} (hs : Spine.ofHorizon start stop = .ok k.spine)
    (hstop : stop < Date.last) (hordered : q.start ≤ q.stop) :
    Needs (([k.spine.dayCovered q.start, k.spine.dayCovered q.stop].map
      (Requirement.map .range)).map (Requirement.map .error)) (k.daysOf q.start q.stop) := by
  have hrange := k.spine.enforces_checkRange q.start q.stop
  cases hcheck : k.spine.checkRange q.start q.stop with
  | ok u =>
    obtain ⟨-, -, hend⟩ := Spine.checkRange_eq_ok.1 hcheck
    have hlast : q.stop < Date.last := by
      refine Int.lt_of_le_of_lt (Spine.contains_iff.1 hend).2 ?_
      rw [(Spine.length_ofHorizon hs).2.1]
      exact hstop
    obtain ⟨rows, hrows, -⟩ := Spine.exists_between hs hcheck hlast
    have hdays : k.daysOf q.start q.stop = .ok rows := by rw [daysOf, hrows]
    rw [hcheck] at hrange
    rw [hdays]
    exact Enforces.mapError (Enforces.mapError (x := .ok ()) (List.forall_mem_cons.1 hrange).2)
  | error e =>
    have hdays : k.daysOf q.start q.stop = .error (.error (.range e)) := by
      rw [daysOf, Spine.between, hcheck]
    rw [hcheck] at hrange
    rw [hdays]
    rcases FirstUnmet.cons_iff.1 hrange with ⟨hinverted, -⟩ | ⟨-, hends⟩
    · exact absurd hordered hinverted
    · exact FirstUnmet.map_iff.2 ⟨_, FirstUnmet.map_iff.2 ⟨e, hends, rfl⟩, rfl⟩

/-- The dimensions that a query names. -/
theorem referenced_eq (q : MetricQuery) :
    referenced q = q.dimensions ++ q.filters.keys.filter (· ∉ q.dimensions) := by
  simp [referenced]

/-- **A statement needs what is asked of its query,** in the same order. -/
theorem needs_statement {start stop : Date} (hs : Spine.ofHorizon start stop = .ok k.spine)
    (hstop : stop < Date.last) (hordered : q.start ≤ q.stop) :
    Needs ((k.requirements q).map (Requirement.map .error)) (k.statement q) := by
  have hdimensions : Needs ((referenced q).map k.catalog.dimensionDefined)
      ((referenced q).mapM k.catalog.dimension) := by
    rw [List.map_eq_flatMap]
    exact Needs.mapM fun name _ => needs_dimension k.catalog name
  have hsteps := (needs_ofCatalog (needs_metric k.catalog q.metric)).bind fun m _ =>
    (needs_ofCatalog hdimensions).bind fun ds _ =>
      (needs_days hs hstop hordered).bind fun rows _ =>
        Needs.ok (assemble (spineBody k.source rows q.start q.stop) k.catalog.fact m ds q)
  rw [requirements, ← referenced_eq]
  simp only [List.append_nil, List.map_append, List.map_cons, List.map_nil, List.cons_append,
    List.nil_append] at hsteps ⊢
  exact hsteps

/-! ### Compilation -/

/-- **A query has a statement exactly when everything it names is there.**  For a query that some
catalog and spine accept, and any compiler whose horizon ends before the calendar does:

* there is a statement exactly when the compiler's catalog defines the metric, the selected
  dimensions and the keys of the filters, and both dates are in the horizon;
* else the error tells of the first of these that is not, in the order of `requirements`;
* under the catalog and the spine that accepted the query there always is one. -/
theorem compile_first_failure {start stop : Date}
    (hs : Spine.ofHorizon start stop = .ok k.spine) (hstop : stop < Date.last) {c : Catalog}
    {s : Spine} (v : ValidQuery c s) :
    ((∃ sql, k.compile v = .ok sql) ↔
      (∃ m ∈ k.catalog.metrics, m.name = v.query.metric) ∧
      (∀ name, name ∈ v.query.dimensions ∨ name ∈ v.query.filters.keys →
        ∃ d ∈ k.catalog.dimensions, d.name = name) ∧
      k.spine.Covers v.query.start ∧ k.spine.Covers v.query.stop) ∧
    (∀ e, k.compile v = .error e ↔
      ∃ told, FirstUnmet (k.requirements v.query) told ∧ e = .error told) ∧
    (c = k.catalog → s = k.spine → ∃ sql, k.compile v = .ok sql) := by
  obtain ⟨_, hvalid⟩ := v.valid
  have hneeds := needs_statement hs hstop (Spine.checkRange_eq_ok.1 hvalid.range).1
  have hfound : (∃ sql, k.compile v = .ok sql) ↔ ∃ tree, k.statement v.query = .ok tree := by
    simp only [compile_eq_ok]
    exact ⟨fun ⟨_, tree, h, _⟩ => ⟨tree, h⟩, fun ⟨tree, h⟩ => ⟨_, tree, h, rfl⟩⟩
  refine ⟨?_, fun e => ?_, ?_⟩
  · rw [hfound, hneeds.exists_ok_iff, List.forall_mem_map]
    exact forall_requirements_iff
  · have hfails : k.compile v = .error e ↔ k.statement v.query = .error e := by
      rw [compile]
      cases k.statement v.query with
      | ok tree => exact ⟨nofun, nofun⟩
      | error e' => exact ⟨fun h => by cases h; rfl, fun h => by cases h; rfl⟩
    rw [hfails, hneeds.eq_error_iff, FirstUnmet.map_iff]
  · rintro rfl rfl
    obtain ⟨m, ds, rows, hparts, -⟩ := exists_parts hs hstop v
    exact hfound.2 ⟨_, statement_eq_ok.2 ⟨m, ds, rows, hparts, rfl⟩⟩

end Compiler

namespace Visits

/-- Visits that are not split by anything. -/
def bareCatalog : Catalog :=
  ⟨⟨"visits", "Visits", "", ⟨"visits", "visited_on"⟩, [{ metric with allowedDimensions := [] }], []⟩,
    by rfl⟩

end Visits

namespace Compiler

/-- The visits to a city have a statement under their own catalog, and none under one without
cities. -/
theorem compile_first_failure_visits :
    (∃ sql, (inlined Visits.catalog Visits.spine).compile (Visits.valid "Lyon") = .ok sql) ∧
    (inlined Visits.bareCatalog Visits.spine).compile (Visits.valid "Lyon") =
      .error (.error (.catalog (.unknownDimension "city"))) := by
  have hlast : Visits.newYear < Date.last := by decide
  have hunmet : FirstUnmet
      ((inlined Visits.bareCatalog Visits.spine).requirements (Visits.query "Lyon"))
      (.catalog (.unknownDimension "city")) := by
    have hmetric : ∃ m ∈ Visits.bareCatalog.metrics, m.name = "visits" := ⟨_, .head _, rfl⟩
    have hcity : ¬ ∃ d ∈ Visits.bareCatalog.dimensions, d.name = "city" := by
      rintro ⟨d, hd, -⟩
      cases hd
    exact FirstUnmet.cons_iff.2 (.inr ⟨hmetric, FirstUnmet.cons_iff.2 (.inl ⟨hcity, rfl⟩)⟩)
  exact ⟨(compile_first_failure Visits.ofHorizon_newYear hlast (Visits.valid "Lyon")).2.2 rfl rfl,
    ((compile_first_failure Visits.ofHorizon_newYear hlast (Visits.valid "Lyon")).2.1 _).2
      ⟨_, hunmet, rfl⟩⟩

end Compiler

end SemanticLayer
