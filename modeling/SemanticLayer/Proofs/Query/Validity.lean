import SemanticLayer.Proofs.Outcome
import SemanticLayer.Query.Validation

/-
# What validation promises, and that it settles

The checks of a query, each as the condition it stands for, and what
`MetricQuery.validate` makes of a query that passes them.  Taking repetitions
away leaves the elements of every list as they are, so a valid query passes
the checks again and comes out unchanged: `ValidQuery.validate_query`.
-/

namespace SemanticLayer

/-! ### Lists without repetitions -/

section FirstOccurrences

variable {α : Type} [BEq α] [LawfulBEq α]

/-- What is kept are the elements that have not been seen. -/
theorem mem_firstOccurrences_go {x : α} {xs seen : List α} :
    x ∈ firstOccurrences.go seen xs ↔ x ∈ xs ∧ x ∉ seen := by
  induction xs generalizing seen with
  | nil => simp [firstOccurrences.go]
  | cons y ys ih =>
    rw [firstOccurrences.go]
    split
    · rename_i hy
      rw [List.contains_iff_mem] at hy
      rw [ih, List.mem_cons]
      constructor
      · exact fun ⟨hx, hs⟩ => ⟨.inr hx, hs⟩
      · rintro ⟨rfl | hx, hs⟩
        · exact absurd hy hs
        · exact ⟨hx, hs⟩
    · rename_i hy
      rw [List.contains_iff_mem] at hy
      rw [List.mem_cons, ih, List.mem_cons, List.mem_cons]
      constructor
      · rintro (rfl | ⟨hx, hs⟩)
        · exact ⟨.inl rfl, hy⟩
        · exact ⟨.inr hx, fun h => hs (.inr h)⟩
      · rintro ⟨rfl | hx, hs⟩
        · exact .inl rfl
        · by_cases hxy : x = y
          · exact .inl hxy
          · exact .inr ⟨hx, fun h => h.elim hxy hs⟩

/-- **Taking repetitions away keeps the elements.** -/
theorem mem_firstOccurrences {x : α} {xs : List α} : x ∈ firstOccurrences xs ↔ x ∈ xs := by
  simp [firstOccurrences, mem_firstOccurrences_go]

theorem nodup_firstOccurrences_go (seen xs : List α) : (firstOccurrences.go seen xs).Nodup := by
  induction xs generalizing seen with
  | nil => exact .nil
  | cons y ys ih =>
    rw [firstOccurrences.go]
    split
    · exact ih seen
    · exact List.nodup_cons.2
        ⟨fun h => (mem_firstOccurrences_go.1 h).2 List.mem_cons_self, ih (y :: seen)⟩

/-- **No element is left twice.** -/
theorem nodup_firstOccurrences (xs : List α) : (firstOccurrences xs).Nodup :=
  nodup_firstOccurrences_go [] xs

/-- A list without repetitions that has not been seen stays as it is. -/
theorem firstOccurrences_go_of_nodup {xs seen : List α} (h : xs.Nodup) (hs : ∀ x ∈ xs, x ∉ seen) :
    firstOccurrences.go seen xs = xs := by
  induction xs generalizing seen with
  | nil => rfl
  | cons y ys ih =>
    obtain ⟨hy, hys⟩ := List.nodup_cons.1 h
    have hnot : seen.contains y = false := by
      simpa using hs y List.mem_cons_self
    rw [firstOccurrences.go, hnot, if_neg Bool.false_ne_true, ih hys]
    intro x hx hmem
    rcases List.mem_cons.1 hmem with rfl | hmem
    · exact hy hx
    · exact hs x (List.mem_cons_of_mem _ hx) hmem

theorem firstOccurrences_of_nodup {xs : List α} (h : xs.Nodup) : firstOccurrences xs = xs :=
  firstOccurrences_go_of_nodup h fun _ _ => List.not_mem_nil

/-- **Taking repetitions away again changes nothing.** -/
theorem firstOccurrences_firstOccurrences (xs : List α) :
    firstOccurrences (firstOccurrences xs) = firstOccurrences xs :=
  firstOccurrences_of_nodup (nodup_firstOccurrences xs)

/-- What has been seen is left out, and of the rest each element is kept once. -/
theorem firstOccurrences_go_eq (seen xs : List α) :
    firstOccurrences.go seen xs = (xs.filter fun x => !seen.contains x).eraseDups := by
  induction xs generalizing seen with
  | nil => rfl
  | cons y ys ih =>
    rw [firstOccurrences.go]
    by_cases hy : seen.contains y = true
    · rw [if_pos hy, ih, List.filter_cons_of_neg (by simpa using hy)]
    · have hnext : (fun x => !(y :: seen).contains x) =
          fun x => (!x == y) && !seen.contains x := by
        funext x
        rw [List.contains_cons, Bool.not_or]
      rw [if_neg hy, ih, List.filter_cons_of_pos (by simpa using hy), List.eraseDups_cons,
        List.filter_filter, hnext]

/-- **Each element is kept at its first occurrence,** in the order of the list. -/
theorem firstOccurrences_eq_eraseDups (xs : List α) : firstOccurrences xs = xs.eraseDups := by
  have hall : xs.filter (fun x => !([] : List α).contains x) = xs := by
    rw [List.filter_eq_self]
    exact fun _ _ => rfl
  rw [firstOccurrences, firstOccurrences_go_eq, hall]

/-- Something is left of a list that has something. -/
theorem firstOccurrences_eq_nil {xs : List α} : firstOccurrences xs = [] ↔ xs = [] := by
  simp only [List.eq_nil_iff_forall_not_mem, mem_firstOccurrences]

end FirstOccurrences

/-! ### The checks -/

theorem Metric.checkDimension_eq_ok {m : Metric} {dimension : String} :
    m.checkDimension dimension = .ok () ↔ m.allows dimension = true := by
  unfold checkDimension
  split <;> simp_all

theorem Dimension.checkValue_eq_ok {d : Dimension} {key value : String} :
    d.checkValue key value = .ok () ↔ d.accepts value = true := by
  unfold checkValue
  split <;> simp_all

/-- **A filter passes** when its key is allowed and it has values that the dimension accepts. -/
theorem Catalog.checkFilter_eq_ok {c : Catalog} {m : Metric} {filter : String × List String} :
    c.checkFilter m filter = .ok () ↔
      m.allows filter.1 = true ∧ filter.2 ≠ [] ∧
        ∃ d, c.dimension filter.1 = .ok d ∧ ∀ value ∈ filter.2, d.accepts value = true := by
  unfold checkFilter
  rw [bind_eq_ok]
  constructor
  · rintro ⟨_, hkey, h⟩
    refine ⟨Metric.checkDimension_eq_ok.1 hkey, ?_⟩
    by_cases hne : filter.2.isEmpty = true
    · rw [if_pos hne] at h
      cases h
    · rw [if_neg hne] at h
      cases hd : c.dimension filter.1 with
      | error e =>
        rw [hd] at h
        cases h
      | ok d =>
        rw [hd] at h
        exact ⟨by simpa using hne, d, rfl,
          fun value hv => Dimension.checkValue_eq_ok.1 (forM_eq_ok.1 h value hv)⟩
  · rintro ⟨hkey, hne, d, hd, hvalues⟩
    refine ⟨(), Metric.checkDimension_eq_ok.2 hkey, ?_⟩
    have hcheck : filter.2.forM (d.checkValue filter.1) = .ok () :=
      forM_eq_ok.2 fun value hv => Dimension.checkValue_eq_ok.2 (hvalues value hv)
    rw [if_neg (by simpa using hne), hd]
    exact hcheck

/-- What a catalog and a spine ask of a query. -/
structure MetricQuery.Valid (c : Catalog) (s : Spine) (q : MetricQuery) (m : Metric) : Prop where
  metric : c.metric q.metric = .ok m
  dimensions : ∀ d ∈ q.dimensions, m.allows d = true
  filters : ∀ f ∈ q.filters.entries, c.checkFilter m f = .ok ()
  range : s.checkRange q.start q.stop = .ok ()

/-- **The checks of a query pass when their conditions hold.** -/
theorem MetricQuery.check_eq_ok {c : Catalog} {s : Spine} {q : MetricQuery} :
    q.check c s = .ok () ↔ ∃ m, q.Valid c s m := by
  unfold check
  constructor
  · intro h
    cases hm : c.metric q.metric with
    | error e =>
      rw [hm] at h
      cases h
    | ok m =>
      simp only [hm, pure_bind] at h
      obtain ⟨_, hd, h⟩ := bind_eq_ok.1 h
      obtain ⟨_, hf, h⟩ := bind_eq_ok.1 h
      refine ⟨m, hm, fun d hmem => Metric.checkDimension_eq_ok.1 (forM_eq_ok.1 hd d hmem),
        forM_eq_ok.1 hf, ?_⟩
      split at h
      · assumption
      · cases h
  · rintro ⟨m, hm, hd, hf, hr⟩
    have hdimensions : q.dimensions.forM m.checkDimension = .ok () :=
      forM_eq_ok.2 fun d hmem => Metric.checkDimension_eq_ok.2 (hd d hmem)
    simp only [hm, pure_bind]
    refine bind_eq_ok.2 ⟨(), hdimensions, bind_eq_ok.2 ⟨(), forM_eq_ok.2 hf, ?_⟩⟩
    rw [hr]
    rfl

/-! ### Valid queries -/

namespace MetricQuery

/-- **The metric allows every dimension that the query names,** in a filter too. -/
theorem Valid.allows {c : Catalog} {s : Spine} {q : MetricQuery} {m : Metric} (h : q.Valid c s m)
    {name : String} (hn : name ∈ q.dimensions ++ q.filters.keys) : m.allows name = true := by
  rcases List.mem_append.1 hn with hn | hn
  · exact h.dimensions name hn
  · obtain ⟨f, hf, rfl⟩ := List.mem_map.1 hn
    exact (Catalog.checkFilter_eq_ok.1 (h.filters f hf)).1

/-- The query without repetitions meets the same conditions. -/
theorem Valid.withoutRepetitions {c : Catalog} {s : Spine} {q : MetricQuery} {m : Metric}
    (h : q.Valid c s m) : q.withoutRepetitions.Valid c s m where
  metric := h.metric
  dimensions d hd := h.dimensions d (mem_firstOccurrences.1 hd)
  filters f hf := by
    obtain ⟨e, he, rfl⟩ := List.mem_map.1 hf
    obtain ⟨hkey, hne, d, hd, hvalues⟩ := Catalog.checkFilter_eq_ok.1 (h.filters e he)
    exact Catalog.checkFilter_eq_ok.2 ⟨hkey, fun hnil => hne (firstOccurrences_eq_nil.1 hnil), d,
      hd, fun value hv => hvalues value (mem_firstOccurrences.1 hv)⟩
  range := h.range

/-- A second removal of repetitions finds none. -/
theorem withoutRepetitions_idem (q : MetricQuery) :
    q.withoutRepetitions.withoutRepetitions = q.withoutRepetitions := by
  have hfilters : (q.filters.mapValues firstOccurrences).mapValues firstOccurrences =
      q.filters.mapValues firstOccurrences := by
    apply Filters.ext
    simp only [Filters.mapValues, List.map_map]
    exact List.map_congr_left fun e _ => by
      simp only [Function.comp_apply, firstOccurrences_firstOccurrences]
  simp only [withoutRepetitions, firstOccurrences_firstOccurrences, hfilters]

end MetricQuery

namespace ValidQuery

variable {c : Catalog} {s : Spine}

/-- Two valid queries with the same query are the same. -/
theorem ext {v w : ValidQuery c s} (h : v.query = w.query) : v = w := by
  cases v; cases w; cases h; rfl

/-- A valid query meets every condition. -/
theorem valid (v : ValidQuery c s) : ∃ m, v.query.Valid c s m := by
  obtain ⟨q, hq, heq⟩ := v.accepted
  obtain ⟨m, hm⟩ := MetricQuery.check_eq_ok.1 hq
  exact ⟨m, heq ▸ hm.withoutRepetitions⟩

/-- A valid query names every dimension once. -/
theorem nodup_dimensions (v : ValidQuery c s) : v.query.dimensions.Nodup := by
  obtain ⟨q, _, heq⟩ := v.accepted
  rw [heq]
  exact nodup_firstOccurrences q.dimensions

/-- **Validation settles.**  A valid query is accepted again and comes out as it is. -/
theorem validate_query (v : ValidQuery c s) : v.query.validate c s = .ok v := by
  have hcheck : v.query.check c s = .ok () := MetricQuery.check_eq_ok.2 v.valid
  have hsame : v.query.withoutRepetitions = v.query := by
    obtain ⟨q, _, heq⟩ := v.accepted
    rw [heq, MetricQuery.withoutRepetitions_idem]
  unfold MetricQuery.validate
  split
  · exact congrArg _ (ext hsame)
  · rename_i e he
    rw [hcheck] at he
    cases he

end ValidQuery

/-! ### A small catalog -/

namespace Visits

def metric : Metric := ⟨"visits", "Visits", "", "", .count, "id", none, ["city"], []⟩

def city : Dimension := ⟨"city", "City", "", "city", none, [], []⟩

/-- Visits to cities, day by day. -/
def catalog : Catalog :=
  ⟨⟨"visits", "Visits", "", ⟨"visits", "visited_on"⟩, [metric], [city]⟩, by rfl⟩

/-- 1 January 2026, a Thursday. -/
def newYear : Date := ⟨739617, by decide⟩

/-- The Monday before. -/
def monday : Date := ⟨739614, by decide⟩

/-- The horizon of one day. -/
def spine : Spine := ⟨newYear, newYear, [⟨newYear, monday, newYear, newYear, newYear⟩]⟩

theorem ofHorizon_newYear : Spine.ofHorizon newYear newYear = .ok spine := by rfl

/-- The visits to one city. -/
def query (name : String) : MetricQuery :=
  ⟨"visits", ["city"], ⟨[("city", [name])], List.pairwise_singleton _ _⟩, .day, newYear, newYear⟩

def valid (name : String) : ValidQuery catalog spine := ⟨query name, query name, rfl, rfl⟩

end Visits

end SemanticLayer
