import SemanticLayer.Proofs.Calendar.Days
import SemanticLayer.Proofs.Catalog.Identifiers
import SemanticLayer.Proofs.Query.Validity
import SemanticLayer.Proofs.Requirement

/-
# Which queries are accepted, and what the others fail with

A query is accepted when its metric is defined, the metric allows its
dimensions and the keys of its filters, every filter has values that the
dimension takes, and its range is ordered and within the horizon
(`MetricQuery.Accepted`).  `MetricQuery.requirements` lists the same conditions
in the order in which they are looked at, each with its error; the checks of a
query enforce that list (`MetricQuery.enforces_check`), so the error is the one
of the first condition that fails (`MetricQuery.validate_first_failure`).
-/

namespace SemanticLayer

/-! ### What is asked -/

namespace Catalog

/-- The catalog defines the metric, and the metric allows the dimension. -/
def Allows (c : Catalog) (metric dimension : String) : Prop :=
  ∃ m ∈ c.metrics, m.name = metric ∧ dimension ∈ m.allowedDimensions

/-- The catalog defines the dimension, and its closed set of values is empty or has the value. -/
def Takes (c : Catalog) (dimension value : String) : Prop :=
  ∃ d ∈ c.dimensions, d.name = dimension ∧ (d.values = [] ∨ value ∈ d.values)

/-- What is asked of a dimension of a query. -/
def dimensionRequirement (c : Catalog) (metric dimension : String) : Requirement ValidationError :=
  ⟨c.Allows metric dimension, .dimensionNotAllowed dimension metric⟩

/-- What is asked of a filter of a query: an allowed key, then a value, then that each value is
taken. -/
def filterRequirements (c : Catalog) (metric : String) (filter : String × List String) :
    List (Requirement ValidationError) :=
  c.dimensionRequirement metric filter.1 ::
    ⟨filter.2 ≠ [], .emptyFilter filter.1⟩ ::
    filter.2.map fun value =>
      ⟨c.Takes filter.1 value, .invalidFilterValue filter.1 value⟩

end Catalog

namespace Spine

/-- The date is a day of the horizon. -/
def Covers (s : Spine) (d : Date) : Prop := s.start ≤ d ∧ d ≤ s.stop

/-- What is asked of a range: that it is ordered, then that it starts and ends in the horizon. -/
def rangeRequirements (s : Spine) (start stop : Date) : List (Requirement RangeError) :=
  [⟨start ≤ stop, .inverted start stop⟩,
    ⟨s.Covers start, .outOfHorizon start s.start s.stop⟩,
    ⟨s.Covers stop, .outOfHorizon stop s.start s.stop⟩]

end Spine

namespace MetricQuery

/-- What is asked of a query, in the order in which it is looked at. -/
def requirements (c : Catalog) (s : Spine) (q : MetricQuery) : List (Requirement ValidationError) :=
  ⟨∃ m ∈ c.metrics, m.name = q.metric, .unknownMetric q.metric⟩ ::
    (q.dimensions.map (c.dimensionRequirement q.metric) ++
      q.filters.entries.flatMap (c.filterRequirements q.metric) ++
      (s.rangeRequirements q.start q.stop).map (Requirement.map .range))

/-- The queries that may be compiled. -/
structure Accepted (c : Catalog) (s : Spine) (q : MetricQuery) : Prop where
  metric : ∃ m ∈ c.metrics, m.name = q.metric
  dimensions : ∀ dimension ∈ q.dimensions, c.Allows q.metric dimension
  keys : ∀ filter ∈ q.filters.entries, c.Allows q.metric filter.1
  nonempty : ∀ filter ∈ q.filters.entries, filter.2 ≠ []
  values : ∀ filter ∈ q.filters.entries, ∀ value ∈ filter.2, c.Takes filter.1 value
  ordered : q.start ≤ q.stop
  start : s.Covers q.start
  stop : s.Covers q.stop

/-- **A query is accepted when everything that is asked of it is met.** -/
theorem accepted_iff {c : Catalog} {s : Spine} {q : MetricQuery} :
    q.Accepted c s ↔ ∀ r ∈ q.requirements c s, r.met := by
  have hfilters : (∀ r ∈ q.filters.entries.flatMap (c.filterRequirements q.metric), r.met) ↔
      ∀ filter ∈ q.filters.entries, c.Allows q.metric filter.1 ∧ filter.2 ≠ [] ∧
        ∀ value ∈ filter.2, c.Takes filter.1 value := by
    simp only [List.forall_mem_flatMap, Catalog.filterRequirements, List.forall_mem_cons,
      List.forall_mem_map, Catalog.dimensionRequirement]
  have hrange :
      (∀ r ∈ (s.rangeRequirements q.start q.stop).map (Requirement.map ValidationError.range),
        r.met) ↔ q.start ≤ q.stop ∧ s.Covers q.start ∧ s.Covers q.stop := by
    simp only [List.forall_mem_map, Spine.rangeRequirements, List.forall_mem_cons,
      List.not_mem_nil, false_implies, implies_true, and_true, Requirement.map]
  rw [requirements, List.forall_mem_cons, List.forall_mem_append, List.forall_mem_append, hfilters,
    hrange, List.forall_mem_map]
  constructor
  · intro h
    exact ⟨h.metric, ⟨h.dimensions, fun f hf => ⟨h.keys f hf, h.nonempty f hf, h.values f hf⟩⟩,
      h.ordered, h.start, h.stop⟩
  · rintro ⟨hmetric, ⟨hdimensions, hfilters⟩, hordered, hstart, hstop⟩
    exact ⟨hmetric, hdimensions, fun f hf => (hfilters f hf).1, fun f hf => (hfilters f hf).2.1,
      fun f hf => (hfilters f hf).2.2, hordered, hstart, hstop⟩

end MetricQuery

/-! ### What the checks enforce -/

section Checks

variable {c : Catalog} {name : String} {m : Metric}

/-- What the metric of a name allows, because no other metric has that name. -/
theorem Catalog.allows_iff (h : c.metric name = .ok m) {dimension : String} :
    c.Allows name dimension ↔ m.allows dimension = true := by
  rw [Metric.allows, List.contains_iff_mem]
  constructor
  · rintro ⟨m', hm', hname, hmem⟩
    have heq : c.metric name = .ok m' := metric_eq_ok_iff.2 ⟨hm', hname⟩
    rw [h] at heq
    cases heq
    exact hmem
  · intro hmem
    obtain ⟨hm, hname⟩ := metric_eq_ok_iff.1 h
    exact ⟨m, hm, hname, hmem⟩

/-- What the dimension of a name takes, because no other dimension has that name. -/
theorem Catalog.takes_iff {d : Dimension} (h : c.dimension name = .ok d) {value : String} :
    c.Takes name value ↔ d.accepts value = true := by
  rw [Dimension.accepts, Bool.or_eq_true, List.isEmpty_iff, List.contains_iff_mem]
  constructor
  · rintro ⟨d', hd', hname, hvalue⟩
    have heq : c.dimension name = .ok d' := dimension_eq_ok_iff.2 ⟨hd', hname⟩
    rw [h] at heq
    cases heq
    exact hvalue
  · intro hvalue
    obtain ⟨hd, hname⟩ := dimension_eq_ok_iff.1 h
    exact ⟨d, hd, hname, hvalue⟩

/-- **The check of a dimension** asks that the metric allows it. -/
theorem Metric.enforces_checkDimension (h : c.metric name = .ok m) (dimension : String) :
    Enforces [c.dimensionRequirement name dimension] (m.checkDimension dimension) := by
  have hname : m.name = name := (Catalog.metric_eq_ok_iff.1 h).2
  rw [checkDimension, hname]
  exact Enforces.single (Catalog.allows_iff h).symm

/-- **The check of a filter** asks for its key, for a value, and for each of its values.  That the
dimension is not found behind the first of these cannot be, because what a metric allows is
defined. -/
theorem Catalog.enforces_checkFilter (h : c.metric name = .ok m) (filter : String × List String) :
    Enforces (c.filterRequirements name filter) (c.checkFilter m filter) := by
  have hkey := Metric.enforces_checkDimension h filter.1
  refine hkey.bind fun hallowed => ?_
  have hallows : m.allows filter.1 = true :=
    (allows_iff h).1 (hallowed _ List.mem_cons_self)
  obtain ⟨d, hd⟩ := exists_dimension (metric_eq_ok_iff.1 h).1 hallows
  have hvalues : Enforces (filter.2.map fun value =>
      ⟨c.Takes filter.1 value, .invalidFilterValue filter.1 value⟩)
      (filter.2.forM (d.checkValue filter.1)) := by
    rw [List.map_eq_flatMap]
    exact Enforces.forM fun value _ => Enforces.single (takes_iff hd).symm
  rw [hd]
  refine Enforces.guard ?_ fun _ => hvalues
  rw [List.isEmpty_iff, not_not]

/-- **The check of a range** asks for its order before it asks for its ends. -/
theorem Spine.enforces_checkRange (s : Spine) (start stop : Date) :
    Enforces (s.rangeRequirements start stop) (s.checkRange start stop) := by
  have hends : ∀ d : Date,
      Enforces [⟨s.Covers d, .outOfHorizon d s.start s.stop⟩] (s.check d) :=
    fun d => Enforces.single contains_iff
  refine Enforces.guard Int.not_le.symm fun _ => ?_
  exact (hends start).bind fun _ => hends stop

/-- **The checks of a query enforce what is asked of it,** in the same order. -/
theorem MetricQuery.enforces_check (c : Catalog) (s : Spine) (q : MetricQuery) :
    Enforces (q.requirements c s) (q.check c s) := by
  cases hm : c.metric q.metric with
  | error e =>
    have hnone : ¬ ∃ m ∈ c.metrics, m.name = q.metric := by
      rintro ⟨m, hmem, hname⟩
      rw [Catalog.metric_eq_ok_iff.2 ⟨hmem, hname⟩] at hm
      cases hm
    rw [check, hm]
    exact FirstUnmet.cons_iff.2 (.inl ⟨hnone, rfl⟩)
  | ok m =>
    have hmetric : Enforces [⟨∃ m ∈ c.metrics, m.name = q.metric, .unknownMetric q.metric⟩]
        (.ok () : Except ValidationError Unit) :=
      List.forall_mem_singleton.2 ⟨m, Catalog.metric_eq_ok_iff.1 hm⟩
    have hdimensions : Enforces (q.dimensions.map (c.dimensionRequirement q.metric))
        (q.dimensions.forM m.checkDimension) := by
      rw [List.map_eq_flatMap]
      exact Enforces.forM fun d _ => Metric.enforces_checkDimension hm d
    have hfilters : Enforces (q.filters.entries.flatMap (c.filterRequirements q.metric))
        (q.filters.entries.forM (c.checkFilter m)) :=
      Enforces.forM fun f _ => Catalog.enforces_checkFilter hm f
    have hrange := (s.enforces_checkRange q.start q.stop).mapError (f := ValidationError.range)
    rw [check, hm, requirements, List.append_assoc]
    refine hmetric.bind fun _ => hdimensions.bind fun _ => hfilters.bind fun _ => ?_
    -- The check of the range fails with the range's own error, under a constructor.
    cases hr : s.checkRange q.start q.stop with
    | ok u =>
      rw [hr] at hrange
      exact hrange
    | error e =>
      rw [hr] at hrange
      exact hrange

end Checks

/-! ### Validation -/

namespace MetricQuery

variable {c : Catalog} {s : Spine} {q : MetricQuery}

/-- A query without repetitions has each dimension and each value of a filter at its first
occurrence. -/
theorem withoutRepetitions_eq (q : MetricQuery) :
    q.withoutRepetitions =
      { q with
        dimensions := q.dimensions.eraseDups
        filters := q.filters.mapValues List.eraseDups } := by
  have hlists : (firstOccurrences : List String → List String) = List.eraseDups :=
    funext firstOccurrences_eq_eraseDups
  rw [withoutRepetitions, hlists]

/-- A query has a result when its checks pass. -/
theorem exists_validate_iff : (∃ v, q.validate c s = .ok v) ↔ q.check c s = .ok () := by
  unfold validate
  constructor
  · rintro ⟨v, hv⟩
    split at hv
    · assumption
    · cases hv
  · intro h
    split
    · exact ⟨_, rfl⟩
    · rename_i e he
      rw [h] at he
      cases he

/-- The result is the query without repetitions. -/
theorem query_of_validate {v : ValidQuery c s} (h : q.validate c s = .ok v) :
    v.query = q.withoutRepetitions := by
  unfold validate at h
  split at h
  · cases h
    rfl
  · cases h

/-- A query fails as its checks fail. -/
theorem validate_eq_error_iff {e : ValidationError} :
    q.validate c s = .error e ↔ q.check c s = .error e := by
  unfold validate
  split
  · rename_i hok
    refine ⟨nofun, fun he => ?_⟩
    rw [hok] at he
    cases he
  · rename_i e' he
    rw [he, Except.error.injEq, Except.error.injEq]

/-- **Validation accepts exactly the queries that may be compiled,** gives them back with each
dimension and each value of a filter at its first occurrence, and fails with the error of the first
thing asked that is not met. -/
theorem validate_first_failure (c : Catalog) (s : Spine) (q : MetricQuery) :
    ((∃ v, q.validate c s = .ok v) ↔ q.Accepted c s) ∧
      (∀ v, q.validate c s = .ok v → v.query =
        { q with
          dimensions := q.dimensions.eraseDups
          filters := q.filters.mapValues List.eraseDups }) ∧
      ∀ e, q.validate c s = .error e ↔ FirstUnmet (q.requirements c s) e := by
  have henforces : Enforces (q.requirements c s) (q.check c s) := enforces_check c s q
  refine ⟨?_, fun v hv => ?_, fun e => ?_⟩
  · rw [exists_validate_iff, henforces.eq_ok_iff, accepted_iff]
  · rw [query_of_validate hv, withoutRepetitions_eq]
  · rw [validate_eq_error_iff, henforces.eq_error_iff]

open Visits in
/-- A query that repeats its dimension is accepted without the repetition.  Of one that names a
dimension that is not allowed and ends before it starts, the dimension is told. -/
theorem validate_first_failure_visits :
    (∃ v, { query "Lyon" with dimensions := ["city", "city"] }.validate catalog spine = .ok v ∧
        v.query = query "Lyon") ∧
      { query "Lyon" with dimensions := ["city", "country"], stop := monday }.validate catalog
          spine =
        .error (.dimensionNotAllowed "country" "visits") := by
  have hmetric : ∃ m ∈ catalog.metrics, m.name = "visits" := ⟨Visits.metric, .head _, rfl⟩
  have hcity : catalog.Allows "visits" "city" := ⟨Visits.metric, .head _, rfl, .head _⟩
  constructor
  · have htoday : spine.Covers newYear := ⟨by decide, by decide⟩
    obtain ⟨haccepted, hquery, -⟩ := validate_first_failure catalog spine
      { query "Lyon" with dimensions := ["city", "city"] }
    obtain ⟨v, hv⟩ := haccepted.2
      { metric := hmetric
        dimensions := by simpa [query] using hcity
        keys := by simpa [query] using hcity
        nonempty := by simp [query]
        values := by simpa [query] using ⟨city, .head _, rfl, .inl rfl⟩
        ordered := by decide
        start := htoday
        stop := htoday }
    exact ⟨v, hv, hquery v hv⟩
  · have hcountry : ¬ catalog.Allows "visits" "country" := by
      rintro ⟨m, hm, -, hallowed⟩
      rw [List.mem_singleton.1 hm] at hallowed
      simp [Visits.metric] at hallowed
    obtain ⟨-, -, herror⟩ := validate_first_failure catalog spine
      { query "Lyon" with dimensions := ["city", "country"], stop := monday }
    exact (herror _).2 (FirstUnmet.cons_iff.2 (.inr ⟨hmetric,
      FirstUnmet.cons_iff.2 (.inr ⟨hcity, FirstUnmet.cons_iff.2 (.inl ⟨hcountry, rfl⟩)⟩)⟩))

end MetricQuery

end SemanticLayer
