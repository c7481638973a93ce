import SemanticLayer.Proofs.Catalog.WellFormed
import SemanticLayer.Proofs.Query.Validity

/-
# Exactly the well-formed models have a catalog

A catalog is built of the well-formed models and of no others
(`Catalog.ofModel_exact`); what is wrong with any other is the first thing asked
that is not met (`Catalog.ofModel_first_failure`).  A name is then looked up as
the one definition that has it.
-/

namespace SemanticLayer

/-- A look-up that gives the one entry of a name, and tells of a name that no entry has. -/
def LooksUp {α : Type} (name : α → String) (xs : List α) (unknown : String → CatalogError)
    (get : String → Except CatalogError α) : Prop :=
  ∀ n, (∃ x, xs.filter (fun y => name y == n) = [x] ∧ get n = .ok x) ∨
    (xs.filter (fun y => name y == n) = [] ∧ get n = .error (unknown n))

/-- **Among distinct names** the first entry of a name is the only one. -/
theorem looksUp_of_find? {α : Type} {name : α → String} {xs : List α}
    {unknown : String → CatalogError} {get : String → Except CatalogError α}
    (hnodup : (xs.map name).Nodup)
    (hfound : ∀ n x, xs.find? (fun y => name y == n) = some x → get n = .ok x)
    (hnone : ∀ n, xs.find? (fun y => name y == n) = none → get n = .error (unknown n)) :
    LooksUp name xs unknown get := by
  intro n
  have hhead : (xs.filter fun y => name y == n).head? = xs.find? fun y => name y == n :=
    List.head?_filter
  cases hfilter : xs.filter fun y => name y == n with
  | nil =>
    rw [hfilter] at hhead
    exact .inr ⟨rfl, hnone n hhead.symm⟩
  | cons x rest =>
    rw [hfilter] at hhead
    have hnamed : ∀ y ∈ x :: rest, name y = n := by
      intro y hy
      rw [← hfilter] at hy
      simpa using (List.mem_filter.1 hy).2
    have honce : ((x :: rest).map name).Nodup :=
      hfilter ▸ hnodup.sublist (List.filter_sublist.map name)
    cases rest with
    | nil => exact .inl ⟨x, rfl, hfound n x hhead.symm⟩
    | cons y rest =>
      obtain ⟨hx, hrest⟩ := List.forall_mem_cons.1 hnamed
      have hy := hrest y List.mem_cons_self
      rw [List.map_cons, List.map_cons, hx, hy] at honce
      exact absurd List.mem_cons_self (List.nodup_cons.1 honce).1

namespace Catalog

variable {m : Model} {c : Catalog}

theorem ofModel_eq_ok : ofModel m = .ok c ↔ c.model = m := by
  unfold ofModel
  split
  · exact ⟨fun h => by cases h; rfl, fun h => by cases c; cases h; rfl⟩
  · rename_i e he
    refine ⟨nofun, fun h => ?_⟩
    rw [← h, c.checked] at he
    cases he

/-- **A model is refused with the error of the first thing asked that is not met.** -/
theorem ofModel_first_failure {e : CatalogError} :
    ofModel m = .error e ↔ FirstUnmet m.requirements e := by
  rw [← m.enforces_check.eq_error_iff]
  unfold ofModel
  split
  · rename_i hok
    exact ⟨nofun, fun he => nomatch hok.symm.trans he⟩
  · rename_i e' he
    rw [he, Except.error.injEq, Except.error.injEq]

/-- **A catalog is built of exactly the well-formed models.**  Every name is then looked up as the
one definition of the model that has it, or as unknown if none has it. -/
theorem ofModel_exact (m : Model) :
    ((∃ c, ofModel m = .ok c) ↔ m.WellFormed) ∧
      ∀ c, ofModel m = .ok c →
        LooksUp Metric.name m.metrics .unknownMetric c.metric ∧
          LooksUp Dimension.name m.dimensions .unknownDimension c.dimension := by
  refine ⟨⟨?_, fun h => ?_⟩, fun c hc => ?_⟩
  · rintro ⟨c, hc⟩
    exact ofModel_eq_ok.1 hc ▸ c.wellFormed
  · exact ⟨⟨m, Model.check_eq_ok.2 h⟩, ofModel_eq_ok.2 rfl⟩
  · obtain rfl := ofModel_eq_ok.1 hc
    constructor
    · refine looksUp_of_find? c.wellFormed.metricNames (fun n x hx => ?_) fun n hn => ?_
      · rw [metric, metrics, hx]
      · rw [metric, metrics, hn]
    · refine looksUp_of_find? c.wellFormed.dimensionNames (fun n x hx => ?_) fun n hn => ?_
      · rw [dimension, dimensions, hx]
      · rw [dimension, dimensions, hn]

/-- The model of visits has a catalog, which knows its metric and its dimension; without the
dimension it has none. -/
theorem ofModel_exact_visits :
    ofModel Visits.catalog.model = .ok Visits.catalog ∧
      LooksUp Metric.name [Visits.metric] .unknownMetric Visits.catalog.metric ∧
        LooksUp Dimension.name [Visits.city] .unknownDimension Visits.catalog.dimension ∧
          ¬ ∃ c, ofModel { Visits.catalog.model with dimensions := [] } = .ok c := by
  have hok : ofModel Visits.catalog.model = .ok Visits.catalog := ofModel_eq_ok.2 rfl
  obtain ⟨hmetric, hdimension⟩ := (ofModel_exact Visits.catalog.model).2 Visits.catalog hok
  refine ⟨hok, hmetric, hdimension, fun h => ?_⟩
  have hallowed := ((ofModel_exact _).1.1 h).metrics Visits.metric List.mem_cons_self
  exact absurd (hallowed.allowed "city" List.mem_cons_self) List.not_mem_nil

end Catalog

end SemanticLayer
