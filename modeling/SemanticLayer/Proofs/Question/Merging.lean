import SemanticLayer.Proofs.Catalog.Ambiguity
import SemanticLayer.Proofs.Query.FilterMaps
import SemanticLayer.Proofs.Question.Translation

/-
# What becomes of a candidate's terms

The metric, the dimensions and the keys of the filters of a candidate are terms,
and a query has the names that they stand for:

| of the candidate | in the query |
| --- | --- |
| the metric | the metric that it stands for |
| the dimensions | those that they stand for, each once |
| keys that stand for one dimension | this dimension |
| their values | the values of this dimension, each once |

No filter is lost on the way and none is invented (`Candidate.NamedIn`).  If a
term is ambiguous, there is no query: the error tells of the first term, in the
order of the table, that stands for nothing
(`Translator.translate_resolves_names`).
-/

namespace SemanticLayer

/-! ### What is asked of the terms -/

/-- A term of a metric is asked not to be ambiguous. -/
def Catalog.metricTerm (c : Catalog) (term : String) : Requirement QuestionError :=
  (Entry.unambiguous (c.metrics.map Metric.entry) term).map .ofCatalog

/-- A term of a dimension is asked not to be ambiguous. -/
def Catalog.dimensionTerm (c : Catalog) (term : String) : Requirement QuestionError :=
  (Entry.unambiguous (c.dimensions.map Dimension.entry) term).map .ofCatalog

namespace Candidate

variable {c : Catalog} {candidate : Candidate}

/-- What is asked of the metric: that there is one, and that its term is not ambiguous. -/
def metricRequirements (candidate : Candidate) (c : Catalog) : List (Requirement QuestionError) :=
  (candidate.metric >>= Text.nonBlank?).elim [⟨False, .missingMetric⟩] fun term =>
    [c.metricTerm term]

/-- What is asked of the terms, in the order in which they are looked at. -/
def nameRequirements (candidate : Candidate) (c : Catalog) : List (Requirement QuestionError) :=
  candidate.metricRequirements c ++ (candidate.dimensions.map c.dimensionTerm ++
    candidate.filters.keys.map c.dimensionTerm)

/-- Some term is ambiguous. -/
def NamesAmbiguously (candidate : Candidate) (c : Catalog) : Prop :=
  (∃ term, candidate.metric = some term ∧
    Entry.Ambiguous (c.metrics.map Metric.entry) term) ∨
  ∃ term ∈ candidate.dimensions ++ candidate.filters.keys,
    Entry.Ambiguous (c.dimensions.map Dimension.entry) term

/-- An ambiguous term is one of which too much is asked. -/
theorem NamesAmbiguously.not_met (h : candidate.NamesAmbiguously c) :
    ¬ ∀ r ∈ candidate.nameRequirements c, r.met := by
  intro hmet
  obtain ⟨hmetric, hterms⟩ := List.forall_mem_append.1 hmet
  rcases h with ⟨term, hsome, hambiguous⟩ | ⟨term, hterm, hambiguous⟩
  · rw [metricRequirements, hsome, Option.bind_eq_bind, Option.bind_some] at hmetric
    cases hblank : Text.nonBlank? term with
    | none =>
      rw [hblank] at hmetric
      exact hmetric _ List.mem_cons_self
    | some rest =>
      have htrim : rest = Text.trim term := by
        unfold Text.nonBlank? at hblank
        dsimp only at hblank
        split at hblank
        · cases hblank
        · exact (Option.some.inj hblank).symm
      rw [hblank] at hmetric
      refine hmetric (c.metricTerm rest) List.mem_cons_self ?_
      rwa [htrim, Entry.ambiguous_trim]
  · rw [← List.map_append] at hterms
    exact hterms _ (List.mem_map_of_mem hterm) hambiguous

/-- **A query has what a candidate asks for,** each term under the name that it stands for. -/
structure NamedIn (candidate : Candidate) (c : Catalog) (q : MetricQuery) : Prop where
  metric : ∃ term, candidate.metric >>= Text.nonBlank? = some term ∧
    c.resolveMetric term = .ok q.metric
  dimensions : ∃ names : List String, candidate.dimensions.map c.resolveDimension = names.map .ok ∧
    q.dimensions = names.eraseDups
  keys : ∀ d, d ∈ q.filters.keys ↔ ∃ key ∈ candidate.filters.keys, c.resolveDimension key = .ok d
  values : ∀ d x, (∃ values, q.filters.get? d = some values ∧ x ∈ values) ↔
    ∃ key values, candidate.filters.get? key = some values ∧ c.resolveDimension key = .ok d ∧
      x ∈ values

end Candidate

namespace Translator

variable {c : Catalog} {t : Translator} {outside : Provider → Reading} {question : String}
  {id : Option String} {candidate : Candidate} {today : Date}

/-! ### Names that are found -/

theorem metricOf_eq_ok {metric : String} : metricOf c candidate = .ok metric ↔
    ∃ term, candidate.metric >>= Text.nonBlank? = some term ∧
      c.resolveMetric term = .ok metric := by
  unfold metricOf
  split
  · rename_i term hterm
    rw [ofCatalog_eq_ok, hterm]
    exact ⟨fun h => ⟨term, rfl, h⟩, fun ⟨_, hsame, h⟩ => Option.some.inj hsame ▸ h⟩
  · rename_i hnone
    rw [hnone]
    exact ⟨nofun, nofun⟩

/-- **What is under a key of the filters that come out** was under the keys that stand for it. -/
theorem exists_get?_filtersOf {P : List String → Prop}
    (hP : ∀ old values, P (old ++ values) ↔ P old ∨ P values) {filters : Filters}
    (h : filtersOf c candidate = .ok filters) (d : String) :
    (∃ found, filters.get? d = some found ∧ P found) ↔
      ∃ key values, candidate.filters.get? key = some values ∧ c.resolveDimension key = .ok d ∧
        P values := by
  -- the filters that are built have what is under the keys gone through so far
  have hrun : ∀ (entries : List (String × List String)) (f : Filters),
      entries.foldlM (fun f e => do
        return f.add (← ofCatalog (c.resolveDimension e.1)) e.2) f = .ok filters →
      ((∃ found, filters.get? d = some found ∧ P found) ↔
        (∃ found, f.get? d = some found ∧ P found) ∨
          ∃ e ∈ entries, c.resolveDimension e.1 = .ok d ∧ P e.2) := by
    intro entries
    induction entries with
    | nil =>
      intro f h
      cases h
      simp
    | cons e entries ih =>
      intro f h
      obtain ⟨g, hg, h⟩ := bind_eq_ok.1 h
      obtain ⟨name, hname, hadd⟩ := bind_eq_ok.1 hg
      cases hadd
      have hsame : name = d ↔ c.resolveDimension e.1 = .ok d := by
        rw [ofCatalog_eq_ok.1 hname, Except.ok.injEq]
      rw [ih _ h, Filters.exists_get?_add hP, List.exists_mem_cons_iff, hsame, or_assoc]
  have hempty : ¬ ∃ found, Filters.empty.get? d = some found ∧ P found := nofun
  rw [hrun candidate.filters.entries .empty h, or_iff_right hempty]
  simp only [Prod.exists, Filters.get?_eq_some]

theorem mem_keys_filtersOf {filters : Filters} (h : filtersOf c candidate = .ok filters)
    {d : String} :
    d ∈ filters.keys ↔ ∃ key ∈ candidate.filters.keys, c.resolveDimension key = .ok d := by
  have hkeys := exists_get?_filtersOf (P := fun _ => True) (fun _ _ => (or_self_iff).symm) h d
  simp only [and_true] at hkeys
  rw [Filters.mem_keys, hkeys]
  simp only [Filters.mem_keys, exists_and_right]

/-- **A valid query of a candidate has what the candidate asks for.** -/
theorem namedIn_of_resolve {s : Spine} {q : MetricQuery} {v : ValidQuery c s}
    (hq : resolve c question candidate today = .ok q) (hv : q.validate c s = .ok v) :
    candidate.NamedIn c v.query := by
  obtain ⟨hmetric, hdimensions, hfilters, -, -⟩ := resolve_eq_ok.1 hq
  rw [MetricQuery.query_of_validate hv]
  constructor
  · exact metricOf_eq_ok.1 hmetric
  · exact ⟨q.dimensions, mapM_eq_ok.1 (ofCatalog_eq_ok.1 hdimensions),
      firstOccurrences_eq_eraseDups q.dimensions⟩
  · intro d
    rw [← mem_keys_filtersOf hfilters, Filters.mem_keys, Filters.mem_keys]
    simp [MetricQuery.withoutRepetitions, Filters.get?_mapValues]
  · intro d x
    rw [← exists_get?_filtersOf (P := (x ∈ ·)) (fun _ _ => List.mem_append) hfilters]
    simp [MetricQuery.withoutRepetitions, Filters.get?_mapValues, mem_firstOccurrences]

/-! ### Names that are not found -/

/-- The names of a candidate's terms. -/
def namesOf (c : Catalog) (candidate : Candidate) :
    Except (Fault QuestionError) (String × List String × Filters) := do
  return (← metricOf c candidate, ← dimensionsOf c candidate, ← filtersOf c candidate)

/-- Names come before days. -/
theorem resolve_of_namesOf {e : Fault QuestionError} (h : namesOf c candidate = .error e) :
    resolve c question candidate today = .error e := by
  unfold namesOf at h
  unfold resolve
  rcases bind_eq_error.1 h with hmetric | ⟨metric, hmetric, h⟩
  · rw [hmetric]
    rfl
  · rcases bind_eq_error.1 h with hdimensions | ⟨dimensions, hdimensions, h⟩
    · rw [hmetric, hdimensions]
      rfl
    · rcases bind_eq_error.1 h with hfilters | ⟨filters, -, h⟩
      · rw [hmetric, hdimensions, hfilters]
        rfl
      · cases h

theorem needs_ofCatalog {α : Type} {rs : List (Requirement CatalogError)}
    {x : Except CatalogError α} (h : Needs rs x) :
    Needs ((rs.map (Requirement.map .ofCatalog)).map (Requirement.map .error)) (ofCatalog x) := by
  have hwords : ofCatalog x = (x.mapError QuestionError.ofCatalog).mapError Fault.error := by
    cases x <;> rfl
  rw [hwords]
  exact h.mapError.mapError

theorem needs_metricOf (c : Catalog) (candidate : Candidate) :
    Needs ((candidate.metricRequirements c).map (Requirement.map .error))
      (metricOf c candidate) := by
  unfold metricOf Candidate.metricRequirements
  cases candidate.metric >>= Text.nonBlank? with
  | none => exact Enforces.cons_of_not_met (r := ⟨False, _⟩) id
  | some term => exact needs_ofCatalog (Entry.needs_resolve _ term)

theorem needs_dimensionsOf (c : Catalog) (candidate : Candidate) :
    Needs ((candidate.dimensions.map c.dimensionTerm).map (Requirement.map .error))
      (dimensionsOf c candidate) := by
  have hterms : Needs (candidate.dimensions.flatMap fun term =>
      [Entry.unambiguous (c.dimensions.map Dimension.entry) term])
      (candidate.dimensions.mapM c.resolveDimension) :=
    Needs.mapM fun term _ => Entry.needs_resolve _ term
  rw [← List.map_eq_flatMap] at hterms
  have hsame : candidate.dimensions.map c.dimensionTerm =
      (candidate.dimensions.map
        (Entry.unambiguous (c.dimensions.map Dimension.entry))).map (Requirement.map .ofCatalog) :=
    List.map_map.symm
  rw [hsame]
  exact needs_ofCatalog hterms

theorem needs_filtersOf (c : Catalog) (candidate : Candidate) :
    Needs ((candidate.filters.keys.map c.dimensionTerm).map (Requirement.map .error))
      (filtersOf c candidate) := by
  have hstep : ∀ e ∈ candidate.filters.entries, ∀ f : Filters,
      Needs [(c.dimensionTerm e.1).map Fault.error] (do
        return f.add (← ofCatalog (c.resolveDimension e.1)) e.2) := fun e _ f =>
    (needs_ofCatalog (Entry.needs_resolve _ e.1)).bind fun name _ => Needs.ok (f.add name e.2)
  have hrun := Needs.foldlM hstep Filters.empty
  rw [← List.map_eq_flatMap] at hrun
  rw [Filters.keys, List.map_map, List.map_map]
  exact hrun

/-- **The names need what is asked of the terms,** in the same order. -/
theorem needs_namesOf (c : Catalog) (candidate : Candidate) :
    Needs ((candidate.nameRequirements c).map (Requirement.map .error)) (namesOf c candidate) := by
  rw [Candidate.nameRequirements, List.map_append, List.map_append]
  refine (needs_metricOf c candidate).bind fun metric _ =>
    (needs_dimensionsOf c candidate).bind fun dimensions _ => ?_
  have hfilters := (needs_filtersOf c candidate).bind fun filters _ =>
    Needs.ok (metric, dimensions, filters)
  rwa [List.append_nil] at hfilters

/-- **An ambiguous term leaves no query,** and the first that stands for nothing is told of. -/
theorem exists_error_of_namesAmbiguously (h : candidate.NamesAmbiguously c) :
    ∃ e, FirstUnmet (candidate.nameRequirements c) e ∧
      resolve c question candidate today = .error (.error e) := by
  have hneeds := needs_namesOf c candidate
  cases hnames : namesOf c candidate with
  | ok names =>
    refine absurd (fun r hr => ?_) h.not_met
    exact hneeds.exists_ok_iff.1 ⟨names, hnames⟩ _ (List.mem_map_of_mem hr)
  | error e =>
    obtain ⟨told, htold, rfl⟩ := FirstUnmet.map_iff.1 (hneeds.eq_error_iff.1 hnames)
    exact ⟨told, htold, resolve_of_namesOf hnames⟩

/-! ### Questions -/

/-- **Resolving terms loses and invents nothing.**  A query that comes out of a candidate has what
the candidate asks for, each term under the name that it stands for, and the values of a dimension
are those of all keys that stand for it.  If a term is ambiguous, no query comes out. -/
theorem translate_resolves_names (hread : t.Reads outside question id candidate) :
    (∀ v, t.translate outside question id today = .ok v → candidate.NamedIn t.catalog v.query) ∧
    (candidate.NamesAmbiguously t.catalog → ∃ e,
      FirstUnmet (candidate.nameRequirements t.catalog) e ∧
      t.translate outside question id today = .error (.error e)) := by
  refine ⟨fun v hv => ?_, fun hambiguous => ?_⟩
  · obtain ⟨other, q, hother, hq, hvalid⟩ := translate_eq_ok.1 hv
    obtain rfl := hread.unique hother
    exact namedIn_of_resolve hq hvalid
  · obtain ⟨e, he, hresolve⟩ := exists_error_of_namesAmbiguously hambiguous
    refine ⟨e, he, ?_⟩
    rw [hread.translate]
    exact bind_eq_error.2 (.inl hresolve)

end Translator

namespace Places

def city : Dimension := { Visits.city with synonyms := ["town", "place"] }

def country : Dimension := ⟨"country", "Country", "", "country", none, ["place"], []⟩

/-- Visits to places: "town" is a city, "place" is a city or a country. -/
def catalog : Catalog :=
  ⟨⟨"visits", "Visits", "", ⟨"visits", "visited_on"⟩, [Visits.metric], [city, country]⟩, by rfl⟩

def translator : Translator :=
  (Translator.basic catalog Visits.spine 1).withProvider "scribe" (.other "scribe")

theorem reads_scribe (question : String) (candidate : Candidate) :
    translator.Reads (fun _ => .read (.ok candidate)) question (some "scribe") candidate :=
  ⟨.other "scribe", by rfl, rfl⟩

/-- A candidate that has three terms for the city. -/
def towns : Candidate :=
  { Candidate.ofQuery (Visits.query "Lyon") with
    metric := some "Visits"
    dimensions := ["town", "City", "city"]
    filters := ⟨[("City", ["Lyon"]), ("town", ["Paris", "Lyon"])], by decide⟩ }

/-- What it asks for. -/
def query : MetricQuery :=
  { Visits.query "Lyon" with
    dimensions := ["city", "city", "city"]
    filters := ⟨[("city", ["Lyon", "Paris", "Lyon"])], by decide⟩ }

def valid : ValidQuery catalog Visits.spine := ⟨query.withoutRepetitions, query, rfl, rfl⟩

/-- A candidate that does not say which places. -/
def places : Candidate :=
  { towns with filters := ⟨[("place", ["Lyon"])], by decide⟩ }

theorem namesAmbiguously_places : places.NamesAmbiguously catalog :=
  .inr ⟨"place", by decide, by decide, by decide⟩

end Places

namespace Translator

/-- Cities are asked for under three terms; of places, one cannot tell which are meant. -/
theorem translate_resolves_names_places :
    (∃ v, Places.translator.translate (fun _ => .read (.ok Places.towns)) "visits"
        (some "scribe") Visits.newYear = .ok v ∧ Places.towns.NamedIn Places.catalog v.query ∧
      v.query.filters.get? "city" = some ["Lyon", "Paris"]) ∧
    ∃ e, FirstUnmet (Places.places.nameRequirements Places.catalog) e ∧
      Places.translator.translate (fun _ => .read (.ok Places.places)) "visits"
        (some "scribe") Visits.newYear = .error (.error e) := by
  have hquery : resolve Places.catalog "visits" Places.towns Visits.newYear = .ok Places.query :=
    eq_ok_of_toOption (by decide +kernel)
  have hv : Places.translator.translate (fun _ => .read (.ok Places.towns)) "visits"
      (some "scribe") Visits.newYear = .ok Places.valid :=
    translate_eq_ok.2 ⟨_, _, Places.reads_scribe _ _, hquery, rfl⟩
  exact ⟨⟨_, hv, (translate_resolves_names (Places.reads_scribe _ _)).1 _ hv, by decide⟩,
    (translate_resolves_names (Places.reads_scribe _ _)).2 Places.namesAmbiguously_places⟩

end Translator

end SemanticLayer
