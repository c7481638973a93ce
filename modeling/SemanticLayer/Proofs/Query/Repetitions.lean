import SemanticLayer.Proofs.Query.FirstFailure

/-
# Validation does not see repetitions

A query may name a dimension, or a value of a filter, more than once.  What is
checked a second time has passed before, so a list is checked like its first
occurrences (`forM_firstOccurrences`), and two queries that have the same first
occurrences give the same valid query, or the same error, wherever their
repetitions stand (`MetricQuery.validate_blind_to_repetitions`).
-/

namespace SemanticLayer

/-! ### Checks of lists -/

section

variable {ε α : Type} [BEq α] [LawfulBEq α] {f : α → Except ε Unit}

/-- What has been seen has passed, so nothing is lost where it is left out. -/
theorem forM_firstOccurrences_go {seen xs : List α} (h : ∀ x ∈ seen, f x = .ok ()) :
    (firstOccurrences.go seen xs).forM f = xs.forM f := by
  induction xs generalizing seen with
  | nil => rfl
  | cons x xs ih =>
    have hlist : (x :: xs).forM f = (f x >>= fun _ => xs.forM f) := rfl
    rw [firstOccurrences.go, hlist]
    split
    · rename_i hseen
      rw [h x (List.contains_iff_mem.1 hseen)]
      exact ih h
    · have hkept : (x :: firstOccurrences.go (x :: seen) xs).forM f =
          (f x >>= fun _ => (firstOccurrences.go (x :: seen) xs).forM f) := rfl
      rw [hkept]
      cases hx : f x with
      | error e => rfl
      | ok u => exact ih (List.forall_mem_cons.2 ⟨hx, h⟩)

/-- **A list is checked like its first occurrences:** it passes when they do, and fails at the same
element. -/
theorem forM_firstOccurrences (f : α → Except ε Unit) (xs : List α) :
    (firstOccurrences xs).forM f = xs.forM f :=
  forM_firstOccurrences_go fun _ h => absurd h List.not_mem_nil

end

/-- **A filter is checked like its first occurrences.** -/
theorem Catalog.checkFilter_firstOccurrences (c : Catalog) (m : Metric)
    (filter : String × List String) :
    c.checkFilter m (filter.1, firstOccurrences filter.2) = c.checkFilter m filter := by
  have hempty : (firstOccurrences filter.2).isEmpty = filter.2.isEmpty := by
    rw [Bool.eq_iff_iff, List.isEmpty_iff, List.isEmpty_iff, firstOccurrences_eq_nil]
  simp only [checkFilter, hempty, forM_firstOccurrences]

namespace MetricQuery

variable {c : Catalog} {s : Spine} {q r : MetricQuery}

/-- **The checks of a query are those of the query without repetitions.** -/
theorem check_withoutRepetitions (c : Catalog) (s : Spine) (q : MetricQuery) :
    q.withoutRepetitions.check c s = q.check c s := by
  have hfilters : ∀ m, q.withoutRepetitions.filters.entries.forM (c.checkFilter m) =
      q.filters.entries.forM (c.checkFilter m) := by
    intro m
    change (q.filters.entries.map fun e => (e.1, firstOccurrences e.2)).forM (c.checkFilter m) = _
    rw [List.forM_eq_forM, List.forM_map]
    simp only [Catalog.checkFilter_firstOccurrences]
  have hdimensions : ∀ m : Metric, q.withoutRepetitions.dimensions.forM m.checkDimension =
      q.dimensions.forM m.checkDimension := fun m => forM_firstOccurrences _ _
  simp only [check, hfilters, hdimensions]
  rfl

/-- Queries that are checked alike and keep the same come out alike. -/
theorem validate_congr (hcheck : q.check c s = r.check c s)
    (hsame : q.withoutRepetitions = r.withoutRepetitions) : q.validate c s = r.validate c s := by
  cases hq : q.validate c s with
  | error e => exact (validate_eq_error_iff.2 (hcheck ▸ validate_eq_error_iff.1 hq)).symm
  | ok v =>
    obtain ⟨w, hw⟩ := exists_validate_iff.2 (hcheck ▸ exists_validate_iff.1 ⟨v, hq⟩)
    have hquery : v.query = w.query := by
      rw [query_of_validate hq, query_of_validate hw, hsame]
    rw [hw, ValidQuery.ext hquery]

/-- **Validation settles and does not see repetitions.**  A valid query comes out of validation as
it is.  Two queries that are equal once each dimension and each value of a filter is kept at its
first occurrence alone give the same valid query, or the same error. -/
theorem validate_blind_to_repetitions (c : Catalog) (s : Spine) (q : MetricQuery) :
    (∀ v, q.validate c s = .ok v → v.query.validate c s = .ok v) ∧
      ∀ r : MetricQuery,
        { q with
          dimensions := q.dimensions.eraseDups
          filters := q.filters.mapValues List.eraseDups } =
        { r with
          dimensions := r.dimensions.eraseDups
          filters := r.filters.mapValues List.eraseDups } →
        q.validate c s = r.validate c s := by
  refine ⟨fun v _ => v.validate_query, fun r hsame => ?_⟩
  rw [← withoutRepetitions_eq, ← withoutRepetitions_eq] at hsame
  refine validate_congr ?_ hsame
  calc q.check c s = q.withoutRepetitions.check c s := (check_withoutRepetitions c s q).symm
    _ = r.withoutRepetitions.check c s := by rw [hsame]
    _ = r.check c s := check_withoutRepetitions c s r

/-- A query that names a city and a value twice is the one that names them once, and of an unknown
name only the first counts. -/
theorem validate_blind_to_repetitions_visits :
    let twice : MetricQuery := { Visits.query "Lyon" with
      dimensions := ["city", "city"]
      filters := ⟨[("city", ["Lyon", "Lyon"])], List.pairwise_singleton _ _⟩ }
    let unknown : MetricQuery := { twice with dimensions := ["town", "city", "town"] }
    twice.validate Visits.catalog Visits.spine = .ok (Visits.valid "Lyon") ∧
      (Visits.valid "Lyon").query.validate Visits.catalog Visits.spine =
        .ok (Visits.valid "Lyon") ∧
      unknown.validate Visits.catalog Visits.spine =
        { Visits.query "Lyon" with dimensions := ["town", "city"] }.validate Visits.catalog
          Visits.spine := by
  intro twice unknown
  obtain ⟨hsettles, -⟩ :=
    validate_blind_to_repetitions Visits.catalog Visits.spine (Visits.query "Lyon")
  have hvalid : (Visits.query "Lyon").validate Visits.catalog Visits.spine =
      .ok (Visits.valid "Lyon") := (Visits.valid "Lyon").validate_query
  refine ⟨?_, hsettles _ hvalid, ?_⟩
  · exact ((validate_blind_to_repetitions _ _ twice).2 (Visits.query "Lyon") rfl).trans hvalid
  · exact (validate_blind_to_repetitions _ _ unknown).2 _ rfl

end MetricQuery

end SemanticLayer
