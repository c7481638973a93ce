import SemanticLayer.Proofs.Catalog.Resolution
import SemanticLayer.Proofs.Question.Merging
import SemanticLayer.Proofs.Question.Order

/-
# Candidates that use the names of the catalog

The keyword reader answers with names of the catalog and nothing else
(`Keywords.read_usesNames`).  Such a candidate becomes a query about the same
metric, dimensions and filters exactly when its names lead
(`Translator.resolve_usesNames`): a name behind one that differs from it in
letter case alone is taken for that one, and the query is about another entry.
-/

namespace SemanticLayer

namespace Candidate

/-- The metric, the dimensions and the keys of the filters are names of a catalog. -/
structure UsesNames (candidate : Candidate) (c : Catalog) : Prop where
  metric : ∀ name, candidate.metric = some name → name ∈ c.metricNames
  dimensions : ∀ name ∈ candidate.dimensions, name ∈ c.dimensionNames
  filters : ∀ name ∈ candidate.filters.keys, name ∈ c.dimensionNames

/-- These names lead. -/
structure NamesLead (candidate : Candidate) (c : Catalog) : Prop where
  metric : ∀ name, candidate.metric = some name → Leads c.metricNames name
  dimensions : ∀ name ∈ candidate.dimensions, Leads c.dimensionNames name
  filters : ∀ name ∈ candidate.filters.keys, Leads c.dimensionNames name

end Candidate

/-! ### What the keyword reader names -/

namespace Keywords

/-- A target is an entry of a hint, or a value of one. -/
def Target.NamedIn (h : Hint) : Target → Prop
  | .metric name => name ∈ h.metrics.map HintEntry.name
  | .dimension name => name ∈ h.dimensions.map HintEntry.name
  | .value key _ => key ∈ h.dimensions.map HintEntry.name

theorem namedIn_of_mem_targets {h : Hint} {term : String × Target} (hterm : term ∈ targets h) :
    term.2.NamedIn h := by
  rcases List.mem_append.1 hterm with hterm | hterm
  · obtain ⟨m, hm, hterm⟩ := List.mem_flatMap.1 hterm
    obtain ⟨t, -, rfl⟩ := List.mem_map.1 hterm
    exact List.mem_map_of_mem hm
  · obtain ⟨d, hd, hterm⟩ := List.mem_flatMap.1 hterm
    rcases List.mem_append.1 hterm with hterm | hterm
    all_goals
      obtain ⟨t, -, rfl⟩ := List.mem_map.1 hterm
      exact List.mem_map_of_mem hd

/-- **What is kept of a question stands for entries of the hint.** -/
theorem namedIn_of_mem_kept {h : Hint} {question : String} {f : Found}
    (hf : f ∈ kept h question) : f.target.NamedIn h := by
  obtain ⟨⟨term, target⟩, hterm, hf⟩ := List.mem_flatMap.1 (mem_collect_of_mem_kept hf)
  obtain ⟨start, -, rfl⟩ := List.mem_map.1 hf
  exact namedIn_of_mem_targets hterm

/-- The one metric of the terms kept is that of one of them. -/
theorem exists_of_metricOf {question lowered : List Char} {found : List Found} {name : String}
    (h : metricOf question lowered found = .ok (some name)) :
    ∃ f ∈ found, f.target = .metric name := by
  have hname : name ∈ firstOccurrences (found.filterMap Found.metric?) := by
    unfold metricOf at h
    split at h
    · cases h
    · rename_i hone
      cases h
      exact hone ▸ List.mem_singleton_self name
    · cases h
  obtain ⟨f, hf, hmetric⟩ := List.mem_filterMap.1 (mem_firstOccurrences.1 hname)
  exact ⟨f, hf, Found.metric?_eq_some.1 hmetric⟩

/-- The keys of filters that are built up are those there were and those added. -/
theorem mem_keys_foldl_add {values : List (String × String)} {f : Filters} {key : String}
    (h : key ∈ (values.foldl (fun f (dimension, value) => f.add dimension [value]) f).keys) :
    key ∈ f.keys ∨ ∃ value, (key, value) ∈ values := by
  induction values generalizing f with
  | nil => exact .inl h
  | cons v values ih =>
    obtain ⟨dimension, value⟩ := v
    rcases ih h with hkey | ⟨other, hother⟩
    · obtain ⟨e, he, rfl⟩ := List.mem_map.1 hkey
      rcases Filters.mem_setEntry he with hnew | hold
      · exact .inr ⟨value, hnew ▸ List.mem_cons_self⟩
      · exact .inl (List.mem_map_of_mem hold)
    · exact .inr ⟨other, List.mem_cons_of_mem _ hother⟩

/-- **A filter of the reader is on the dimension of a value that was found.** -/
theorem exists_of_mem_keys {found : List Found} {key : String}
    (h : key ∈ (filtersOf (found.filterMap Found.value?)).keys) :
    ∃ f ∈ found, ∃ value, f.target = .value key value := by
  have hkeys : ∀ (f : Filters) change, (f.mapValues change).keys = f.keys := fun f change => by
    rw [Filters.keys, Filters.mapValues, List.map_map]
    rfl
  rw [filtersOf, hkeys] at h
  rcases mem_keys_foldl_add h with hnone | ⟨value, hvalue⟩
  · cases hnone
  · obtain ⟨f, hf, htarget⟩ := List.mem_filterMap.1 hvalue
    exact ⟨f, hf, value, Found.value?_eq_some.1 htarget⟩

/-- **The keyword reader names entries of the catalog** and nothing else. -/
theorem read_usesNames {c : Catalog} {question : String} {candidate : Candidate}
    (h : read c.hint question = .ok candidate) : candidate.UsesNames c := by
  have hmetrics : c.hint.metrics.map HintEntry.name = c.metricNames := List.map_map
  have hdimensions : c.hint.dimensions.map HintEntry.name = c.dimensionNames := List.map_map
  have hnamed : ∀ f ∈ kept c.hint question, f.target.NamedIn c.hint :=
    fun f hf => namedIn_of_mem_kept hf
  obtain ⟨metric, hmetric, h⟩ := bind_eq_ok.1 h
  cases h
  constructor
  · rintro name rfl
    obtain ⟨f, hf, htarget⟩ := exists_of_metricOf hmetric
    have hmem := hnamed f hf
    rw [htarget] at hmem
    rw [← hmetrics]
    exact hmem
  · intro name hname
    obtain ⟨f, hf, htarget⟩ := List.mem_filterMap.1 (mem_firstOccurrences.1 hname)
    have hmem := hnamed f hf
    rw [Found.dimension?_eq_some.1 htarget] at hmem
    rw [← hdimensions]
    exact hmem
  · intro name hname
    obtain ⟨f, hf, value, htarget⟩ := exists_of_mem_keys hname
    have hmem := hnamed f hf
    rw [htarget] at hmem
    rw [← hdimensions]
    exact hmem

end Keywords

/-! ### What becomes of the names -/

namespace Translator

variable {c : Catalog} {candidate : Candidate}

/-- **A name of the catalog that is a term's meaning leads.** -/
theorem leads_of_resolveDimension {term key : String} (hterm : term ∈ c.dimensionNames)
    (h : c.resolveDimension term = .ok key) : Leads c.dimensionNames key := by
  obtain ⟨first, hfirst, hleads, -⟩ := c.resolveDimension_standsForFirst.first term hterm
  cases hfirst.symm.trans h
  exact hleads

/-- A metric comes of a candidate that names one, and of a name of the catalog it is the metric
that this name stands for. -/
theorem resolveMetric_of_metricOf {metric : String} (hnames : candidate.UsesNames c)
    (h : metricOf c candidate = .ok metric) :
    ∃ name ∈ c.metricNames, candidate.metric = some name ∧ c.resolveMetric name = .ok metric := by
  obtain ⟨term, hterm, hresolve⟩ := metricOf_eq_ok.1 h
  obtain ⟨name, hname, hblank⟩ := Option.bind_eq_some_iff.1 hterm
  have hmem := hnames.metric name hname
  obtain ⟨m, hm, heq⟩ := List.mem_map.1 hmem
  rw [nonBlank?_of_ok (heq ▸ (c.metric_spelled hm).name), Option.some.injEq] at hblank
  exact ⟨name, hmem, hname, hblank ▸ hresolve⟩

/-- **A candidate that uses the names of the catalog** becomes a query about them exactly when they
lead. -/
theorem resolve_usesNames {question : String} {today : Date} {q : MetricQuery}
    (hnames : candidate.UsesNames c) (hq : resolve c question candidate today = .ok q) :
    (candidate.metric = some q.metric ∧ q.dimensions = candidate.dimensions ∧
      q.filters = candidate.filters) ↔ candidate.NamesLead c := by
  obtain ⟨hmetric, hdimensions, hfilters, -, -⟩ := resolve_eq_ok.1 hq
  obtain ⟨metric, hmem, hname, hresolve⟩ := resolveMetric_of_metricOf hnames hmetric
  have hmetrics := c.resolveMetric_standsForFirst.itself metric hmem
  have hstands := c.resolveDimension_standsForFirst
  rw [hname]
  constructor
  · rintro ⟨hsame, hsameDimensions, hsameFilters⟩
    rw [hsameDimensions] at hdimensions
    rw [hsameFilters] at hfilters
    refine ⟨fun name hsome => ?_, fun name hdimension => ?_, fun name hkey => ?_⟩
    · rw [hname] at hsome
      cases hsome
      rw [← Option.some.inj hsame] at hresolve
      exact hmetrics.1 hresolve
    · exact (hstands.itself name (hnames.dimensions name hdimension)).1
        (dimensionsOf_eq_self.1 hdimensions name hdimension)
    · obtain ⟨term, hterm, hkey⟩ := (mem_keys_filtersOf hfilters).1 hkey
      exact leads_of_resolveDimension (hnames.filters term hterm) hkey
  · intro hlead
    have hself := hmetrics.2 (hlead.metric metric hname)
    have hselected := dimensionsOf_eq_self.2 fun d hd =>
      (hstands.itself d (hnames.dimensions d hd)).2 (hlead.dimensions d hd)
    have hkeys := filtersOf_of_self fun d hd =>
      (hstands.itself d (hnames.filters d hd)).2 (hlead.filters d hd)
    exact ⟨congrArg some (Except.ok.inj (hself.symm.trans hresolve)),
      Except.ok.inj (hdimensions.symm.trans hselected), Except.ok.inj (hfilters.symm.trans hkeys)⟩

end Translator

namespace Catalog

/-- **A name stands for the first entry that is named like it,** letter case aside, and so for its
own entry exactly when it leads.  A term that stands for a name is resolved again to the same name
unless that name does not lead.  The keyword reader answers with names of the catalog alone; and of
a candidate that uses such names, the metric, the dimensions and the filters become those of the
query exactly when all of its names lead. -/
theorem names_stand_for_first (c : Catalog) :
    StandsForFirst c.metricNames c.resolveMetric ∧
    StandsForFirst c.dimensionNames c.resolveDimension ∧
    (∀ question candidate, Keywords.read c.hint question = .ok candidate →
      candidate.UsesNames c) ∧
    ∀ question candidate today q, candidate.UsesNames c →
      Translator.resolve c question candidate today = .ok q →
      ((candidate.metric = some q.metric ∧ q.dimensions = candidate.dimensions ∧
        q.filters = candidate.filters) ↔ candidate.NamesLead c) :=
  ⟨c.resolveMetric_standsForFirst, c.resolveDimension_standsForFirst,
    fun _ _ h => Keywords.read_usesNames h,
    fun _ _ _ _ hnames hq => Translator.resolve_usesNames hnames hq⟩

end Catalog

/-! ### Two metrics that differ in letter case -/

namespace Visits

/-- A metric whose name differs from that of the visits in its first letter alone. -/
def pages : Metric := ⟨"Visits", "Page views", "", "", .sum, "pages", none, [], []⟩

/-- The visits behind the page views. -/
def crowded : Catalog :=
  ⟨⟨"visits", "Visits", "", ⟨"visits", "visited_on"⟩,
    [pages, { metric with label := "Visitors" }], [city]⟩, by rfl⟩

/-- The visits of one day. -/
def plain : Candidate := { Candidate.blank with metric := some "visits" }

theorem read_visitors : Keywords.read crowded.hint "visitors on 2026-01-01" = .ok plain :=
  eq_ok_of_toOption (by decide +kernel)

theorem resolve_visitors :
    Translator.resolve crowded "visitors on 2026-01-01" plain newYear =
      .ok (.forMetric "Visits" newYear newYear) :=
  eq_ok_of_toOption (by decide +kernel)

end Visits

namespace Catalog

open Visits in
/-- The reader asks for the visits, and the query is about the page views. -/
theorem names_stand_for_first_visits :
    Keywords.read crowded.hint "visitors on 2026-01-01" = .ok plain ∧ plain.UsesNames crowded ∧
      Translator.resolve crowded "visitors on 2026-01-01" plain newYear =
        .ok (.forMetric "Visits" newYear newYear) ∧
      crowded.resolveMetric "visits" ≠ .ok "visits" ∧ ¬ plain.NamesLead crowded := by
  obtain ⟨hmetrics, -, hread, hquery⟩ := names_stand_for_first crowded
  have hnames := hread _ _ read_visitors
  have hother : ¬ plain.metric = some "Visits" := by decide
  refine ⟨read_visitors, hnames, resolve_visitors, fun hself => ?_, fun hlead => ?_⟩
  · have hleads := (hmetrics.itself _ (hnames.metric "visits" rfl)).1 hself
    exact absurd hleads (by decide)
  · exact hother ((hquery _ _ _ _ hnames resolve_visitors).2 hlead).1

end Catalog

end SemanticLayer
