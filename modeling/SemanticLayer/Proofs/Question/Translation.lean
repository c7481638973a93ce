import SemanticLayer.Proofs.Catalog.Identifiers
import SemanticLayer.Proofs.Query.Document
import SemanticLayer.Proofs.Query.FirstFailure
import SemanticLayer.Question.Translator

/-
# What a provider can do to a query

A provider answers a question with a candidate, and a candidate with names,
filters and dates of any kind becomes a valid query or an error.  The days of
the query come from one place alone (`Asked`):

| the question | the candidate's phrase | the days |
| --- | --- | --- |
| has days | | of the question |
| has none | is there | of the phrase |
| has none | is missing or blank | the candidate's two dates |

So the dates of a candidate do not matter to a question with days of its own,
and whatever a candidate says, the query has passed every check
(`Translator.translate_trusts_nothing`).  A candidate that says what a valid
query says is not changed on the way (`Translator.translate_ofQuery`).
-/

namespace SemanticLayer

/-! ### Candidates -/

namespace Candidate

/-- A candidate without what it says about days. -/
def undated (c : Candidate) : Candidate :=
  { c with timePhrase := none, start := none, stop := none }

/-- The candidate that says what a query says, its dates in ISO form. -/
def ofQuery (q : MetricQuery) : Candidate :=
  { metric := some q.metric, dimensions := q.dimensions, filters := q.filters, timePhrase := none,
    start := some q.start.iso, stop := some q.stop.iso, grain := some q.grain }

end Candidate

/-- The days that a question asks about, with the candidate that was read out of it. -/
inductive Asked (question : String) (candidate : Candidate) (today : Date) : Date → Date → Prop
  /-- The question says the days itself. -/
  | question {start stop : Date}
      (hquestion : DatePhrase.resolve question today = .ok (some (start, stop))) :
      Asked question candidate today start stop
  /-- The candidate's phrase says them. -/
  | phrase {phrase : String} {start stop : Date}
      (hquestion : DatePhrase.resolve question today = .ok none)
      (hphrase : candidate.timePhrase >>= Text.nonBlank? = some phrase)
      (hrange : DatePhrase.resolve phrase today = .ok (some (start, stop))) :
      Asked question candidate today start stop
  /-- The candidate has both dates and no phrase. -/
  | dates {first last : String} {start stop : Date}
      (hquestion : DatePhrase.resolve question today = .ok none)
      (hphrase : candidate.timePhrase >>= Text.nonBlank? = none)
      (hfirst : candidate.start >>= Text.nonBlank? = some first)
      (hlast : candidate.stop >>= Text.nonBlank? = some last)
      (hstart : Date.ofField? first = some start) (hstop : Date.ofField? last = some stop) :
      Asked question candidate today start stop

/-- **A valid query names entries of its catalog** and nothing else. -/
theorem ValidQuery.names {c : Catalog} {s : Spine} (v : ValidQuery c s) :
    v.query.metric ∈ c.metrics.map Metric.name ∧
      ∀ d ∈ v.query.dimensions ++ v.query.filters.keys, d ∈ c.dimensions.map Dimension.name := by
  obtain ⟨m, hv⟩ := v.valid
  obtain ⟨hm, hname⟩ := Catalog.mem_of_metric hv.metric
  refine ⟨hname ▸ List.mem_map_of_mem hm, fun d hd => ?_⟩
  obtain ⟨e, he⟩ := Catalog.exists_dimension hm (hv.allows hd)
  obtain ⟨hmem, rfl⟩ := Catalog.mem_of_dimension he
  exact List.mem_map_of_mem hmem

variable {c : Catalog} {t : Translator} {outside : Provider → Reading} {question : String}
  {id : Option String} {candidate : Candidate} {today : Date}

namespace Translator

/-! ### The days of a candidate -/

theorem phraseRange_eq_ok {text : String} {range : Option (Date × Date)} :
    phraseRange text today = .ok range ↔ DatePhrase.resolve text today = .ok range := by
  unfold phraseRange
  split <;> rename_i h <;> simp [h]

theorem candidateDate_eq_ok {text : String} {d : Date} :
    candidateDate text = .ok d ↔ Date.ofField? text = some d := by
  unfold candidateDate
  split <;> rename_i h <;> simp [h]

/-- **A candidate gives a range when both of its dates are there** and can be read. -/
theorem candidateRange_eq_ok {start stop : Date} :
    candidateRange question candidate = .ok (start, stop) ↔ ∃ first last,
      candidate.start >>= Text.nonBlank? = some first ∧
      candidate.stop >>= Text.nonBlank? = some last ∧
      Date.ofField? first = some start ∧ Date.ofField? last = some stop := by
  unfold candidateRange
  constructor
  · intro h
    split at h
    · rename_i first last hfirst hlast
      obtain ⟨d, hd, h⟩ := bind_eq_ok.1 h
      obtain ⟨e, he, h⟩ := bind_eq_ok.1 h
      cases h
      exact ⟨first, last, hfirst, hlast, candidateDate_eq_ok.1 hd, candidateDate_eq_ok.1 he⟩
    · cases h
    · cases h
  · rintro ⟨first, last, hfirst, hlast, hstart, hstop⟩
    simp only [hfirst, hlast]
    exact bind_eq_ok.2 ⟨start, candidateDate_eq_ok.2 hstart,
      bind_eq_ok.2 ⟨stop, candidateDate_eq_ok.2 hstop, rfl⟩⟩

/-- **The range of a query is what was asked about,** from one of the three places. -/
theorem rangeOf_eq_ok {start stop : Date} :
    rangeOf question candidate today = .ok (start, stop) ↔
      Asked question candidate today start stop := by
  unfold rangeOf
  rw [bind_eq_ok]
  constructor
  · rintro ⟨range, hquestion, h⟩
    replace hquestion := phraseRange_eq_ok.1 hquestion
    cases range with
    | some range =>
      cases h
      exact .question hquestion
    | none =>
      dsimp only at h
      split at h
      · rename_i phrase hphrase
        obtain ⟨range, hrange, h⟩ := bind_eq_ok.1 h
        cases range with
        | some range =>
          cases h
          exact .phrase hquestion hphrase (phraseRange_eq_ok.1 hrange)
        | none => cases h
      · rename_i hphrase
        obtain ⟨first, last, hfirst, hlast, hstart, hstop⟩ := candidateRange_eq_ok.1 h
        exact .dates hquestion hphrase hfirst hlast hstart hstop
  · intro h
    cases h with
    | question hquestion => exact ⟨_, phraseRange_eq_ok.2 hquestion, rfl⟩
    | phrase hquestion hphrase hrange =>
      refine ⟨none, phraseRange_eq_ok.2 hquestion, ?_⟩
      simp only [hphrase]
      exact bind_eq_ok.2 ⟨_, phraseRange_eq_ok.2 hrange, rfl⟩
    | dates hquestion hphrase hfirst hlast hstart hstop =>
      refine ⟨none, phraseRange_eq_ok.2 hquestion, ?_⟩
      simp only [hphrase]
      exact candidateRange_eq_ok.2 ⟨_, _, hfirst, hlast, hstart, hstop⟩

/-- A question with days of its own, or with days that are ambiguous, is not asked what the
candidate says about them. -/
theorem rangeOf_congr (h : DatePhrase.resolve question today ≠ .ok none)
    (candidate candidate' : Candidate) :
    rangeOf question candidate today = rangeOf question candidate' today := by
  unfold rangeOf
  cases hrange : phraseRange question today with
  | error e => rfl
  | ok range =>
    cases range with
    | some range => rfl
    | none => exact absurd (phraseRange_eq_ok.1 hrange) h

/-! ### The query of a candidate -/

theorem ofCatalog_eq_ok {α : Type} {x : Except CatalogError α} {a : α} :
    ofCatalog x = .ok a ↔ x = .ok a := by
  cases x with
  | ok b => exact ⟨fun h => congrArg _ (Except.ok.inj h), fun h => congrArg _ (Except.ok.inj h)⟩
  | error e => exact ⟨nofun, nofun⟩

/-- **A candidate becomes a query part by part.** -/
theorem resolve_eq_ok {q : MetricQuery} :
    resolve c question candidate today = .ok q ↔ metricOf c candidate = .ok q.metric ∧
      dimensionsOf c candidate = .ok q.dimensions ∧ filtersOf c candidate = .ok q.filters ∧
      Asked question candidate today q.start q.stop ∧ q.grain = candidate.grain.getD .day := by
  unfold resolve
  constructor
  · intro h
    obtain ⟨metric, hmetric, h⟩ := bind_eq_ok.1 h
    obtain ⟨dimensions, hdimensions, h⟩ := bind_eq_ok.1 h
    obtain ⟨filters, hfilters, h⟩ := bind_eq_ok.1 h
    obtain ⟨⟨start, stop⟩, hrange, h⟩ := bind_eq_ok.1 h
    cases h
    exact ⟨hmetric, hdimensions, hfilters, rangeOf_eq_ok.1 hrange, rfl⟩
  · rintro ⟨hmetric, hdimensions, hfilters, hasked, hgrain⟩
    refine bind_eq_ok.2 ⟨_, hmetric, bind_eq_ok.2 ⟨_, hdimensions, bind_eq_ok.2 ⟨_, hfilters,
      bind_eq_ok.2 ⟨_, rangeOf_eq_ok.2 hasked, ?_⟩⟩⟩⟩
    rw [← hgrain]
    rfl

/-- Two candidates that differ in their days alone become the same query, or fail in the same way,
if the question does not ask for these days. -/
theorem resolve_congr {candidate' : Candidate} (hundated : candidate.undated = candidate'.undated)
    (h : DatePhrase.resolve question today ≠ .ok none) :
    resolve c question candidate today = resolve c question candidate' today := by
  obtain ⟨metric, dimensions, filters, phrase, start, stop, grain⟩ := candidate
  obtain ⟨metric', dimensions', filters', phrase', start', stop', grain'⟩ := candidate'
  -- The names, filters and grain are now the same; only the range still sees two candidates.
  cases hundated
  unfold resolve
  rw [rangeOf_congr h]
  rfl

theorem validate_eq_ok {s : Spine} {q : MetricQuery} {v : ValidQuery c s} :
    validate c s q = .ok v ↔ q.validate c s = .ok v := by
  unfold validate
  split <;> rename_i h <;> simp [h]

/-! ### The answer to a question -/

/-- The provider that is asked reads the question as a candidate. -/
def Reads (t : Translator) (outside : Provider → Reading) (question : String) (id : Option String)
    (candidate : Candidate) : Prop :=
  ∃ p, t.choose id = .ok p ∧ t.reading p question (outside p) = .read (.ok candidate)

theorem Reads.unique {candidate' : Candidate} (h : t.Reads outside question id candidate)
    (h' : t.Reads outside question id candidate') : candidate = candidate' := by
  obtain ⟨p, hp, hread⟩ := h
  obtain ⟨p', hp', hread'⟩ := h'
  cases hp.symm.trans hp'
  cases hread.symm.trans hread'
  rfl

/-- A candidate that was read is the end of the provider's part. -/
theorem Reads.translate (h : t.Reads outside question id candidate) :
    t.translate outside question id today =
      t.finish question today (.read (.ok candidate)) := by
  obtain ⟨p, hp, hread⟩ := h
  unfold Translator.translate
  rw [hp]
  dsimp only
  rw [hread]

/-- **A question is translated when a candidate is read** that becomes a query which is accepted. -/
theorem translate_eq_ok {v : ValidQuery t.catalog t.spine} :
    t.translate outside question id today = .ok v ↔ ∃ candidate q,
      t.Reads outside question id candidate ∧
      resolve t.catalog question candidate today = .ok q ∧
      q.validate t.catalog t.spine = .ok v := by
  constructor
  · intro h
    unfold Translator.translate at h
    split at h
    · cases h
    · rename_i p hp
      cases hread : t.reading p question (outside p) with
      | late =>
        rw [hread] at h
        cases h
      | read result =>
        rw [hread] at h
        cases result with
        | error e => cases h
        | ok candidate =>
          obtain ⟨q, hq, hv⟩ := bind_eq_ok.1 h
          exact ⟨candidate, q, ⟨p, hp, hread⟩, hq, validate_eq_ok.1 hv⟩
  · rintro ⟨candidate, q, hread, hq, hv⟩
    rw [hread.translate]
    exact bind_eq_ok.2 ⟨q, hq, validate_eq_ok.2 hv⟩

/-- **A provider is never trusted.**  If the question says its days, or says them ambiguously, two
candidates that differ in their days alone are answered in the same way.  And whatever a candidate
says, a query that comes out is accepted again as it is, names entries of the catalog, and has the
days that were asked about: those of the question, else those of the candidate's phrase, else both
of its dates. -/
theorem translate_trusts_nothing (t : Translator) (question : String) (id : Option String)
    (today : Date) :
    (∀ outside outside' candidate candidate', t.Reads outside question id candidate →
      t.Reads outside' question id candidate' → candidate.undated = candidate'.undated →
      DatePhrase.resolve question today ≠ .ok none →
        t.translate outside question id today = t.translate outside' question id today) ∧
    ∀ outside (v : ValidQuery t.catalog t.spine), t.translate outside question id today = .ok v →
      v.query.validate t.catalog t.spine = .ok v ∧
      v.query.metric ∈ t.catalog.metrics.map Metric.name ∧
      (∀ d ∈ v.query.dimensions ++ v.query.filters.keys,
        d ∈ t.catalog.dimensions.map Dimension.name) ∧
      ∃ candidate, t.Reads outside question id candidate ∧
        Asked question candidate today v.query.start v.query.stop := by
  refine ⟨fun outside outside' a b ha hb hundated hquestion => ?_, fun outside v hv => ?_⟩
  · rw [ha.translate, hb.translate]
    exact congrArg (· >>= validate t.catalog t.spine) (resolve_congr hundated hquestion)
  · obtain ⟨candidate, q, hread, hq, hvalid⟩ := translate_eq_ok.1 hv
    obtain ⟨-, -, -, hasked, -⟩ := resolve_eq_ok.1 hq
    obtain ⟨hmetric, hdimensions⟩ := v.names
    refine ⟨v.validate_query, hmetric, hdimensions, candidate, hread, ?_⟩
    rw [MetricQuery.query_of_validate hvalid]
    exact hasked

end Translator

namespace Visits

/-- A translator with a provider of its own besides the one that looks for keywords. -/
def translator : Translator :=
  (Translator.basic catalog spine 1).withProvider "scribe" (.other "scribe")

theorem reads_scribe (question : String) (candidate : Candidate) :
    translator.Reads (fun _ => .read (.ok candidate)) question (some "scribe") candidate :=
  ⟨.other "scribe", by rfl, rfl⟩

/-- The visits to Lyon, with days that are not those of the question. -/
def misdated : Candidate :=
  { Candidate.ofQuery (query "Lyon") with
    timePhrase := some "last year", start := some "1999-12-31", stop := none }

end Visits

namespace Translator

/-- The day of the question counts, whatever the provider makes of it. -/
theorem translate_trusts_nothing_visits :
    Visits.translator.translate (fun _ => .read (.ok Visits.misdated)) "visits on 2026-01-01"
        (some "scribe") Visits.newYear =
      Visits.translator.translate
        (fun _ => .read (.ok (Candidate.ofQuery (Visits.query "Lyon")))) "visits on 2026-01-01"
        (some "scribe") Visits.newYear ∧
    ∃ v, Visits.translator.translate (fun _ => .read (.ok Visits.misdated)) "visits on 2026-01-01"
        (some "scribe") Visits.newYear = .ok v ∧
      Asked "visits on 2026-01-01" Visits.misdated Visits.newYear v.query.start v.query.stop := by
  have hquestion : DatePhrase.resolve "visits on 2026-01-01" Visits.newYear =
      .ok (some (Visits.newYear, Visits.newYear)) := eq_ok_of_toOption (by decide +kernel)
  have hquery : resolve Visits.catalog "visits on 2026-01-01" Visits.misdated Visits.newYear =
      .ok (Visits.query "Lyon") := eq_ok_of_toOption (by decide +kernel)
  have hread := Visits.reads_scribe "visits on 2026-01-01" Visits.misdated
  obtain ⟨hsame, hanswer⟩ := translate_trusts_nothing Visits.translator "visits on 2026-01-01"
    (some "scribe") Visits.newYear
  have hv : Visits.translator.translate (fun _ => .read (.ok Visits.misdated))
      "visits on 2026-01-01" (some "scribe") Visits.newYear = .ok (Visits.valid "Lyon") :=
    translate_eq_ok.2 ⟨_, _, hread, hquery, (Visits.valid "Lyon").validate_query⟩
  refine ⟨hsame _ _ _ _ hread (Visits.reads_scribe _ _) rfl (by rw [hquestion]; nofun), _, hv, ?_⟩
  obtain ⟨-, -, -, candidate, hcandidate, hasked⟩ := hanswer _ _ hv
  obtain rfl := hcandidate.unique hread
  exact hasked

/-! ### Candidates that say what a query says -/

/-- A name like an identifier is a term as it is. -/
theorem nonBlank?_of_ok {name : String} (hok : Identifier.ok name.toList = true) :
    Text.nonBlank? name = some name := by
  have hne : name.toList ≠ [] := fun hnil => by
    rw [hnil] at hok
    cases hok
  have hblank : ∀ ch ∈ name.toList, Text.isBlank ch = false := fun ch hch =>
    Identifier.isBlank_of_isPart (Identifier.isPart_of_ok hok ch hch)
  exact Text.nonBlank?_eq_some hne hblank

/-- A metric that is named like an identifier is looked up as it is. -/
theorem metricOf_of_ok {name : String} (hname : candidate.metric = some name)
    (hok : Identifier.ok name.toList = true) :
    metricOf c candidate = ofCatalog (c.resolveMetric name) := by
  unfold metricOf
  simp only [hname, Option.bind_eq_bind, Option.bind_some, nonBlank?_of_ok hok]

theorem metricOf_ofQuery {q : MetricQuery} (hok : Identifier.ok q.metric.toList = true)
    (h : c.resolveMetric q.metric = .ok q.metric) :
    metricOf c (.ofQuery q) = .ok q.metric := by
  rw [metricOf_of_ok rfl hok, h]
  rfl

/-- Dimensions are left as they are when each of them stands for itself. -/
theorem dimensionsOf_eq_self : dimensionsOf c candidate = .ok candidate.dimensions ↔
    ∀ d ∈ candidate.dimensions, c.resolveDimension d = .ok d := by
  rw [dimensionsOf, ofCatalog_eq_ok, mapM_eq_ok, List.map_inj_left]

/-- **Filters whose keys stand for themselves are built again as they are.** -/
theorem filtersOf_of_self (h : ∀ d ∈ candidate.filters.keys, c.resolveDimension d = .ok d) :
    filtersOf c candidate = .ok candidate.filters := by
  have hstep : ∀ e ∈ candidate.filters.entries, ∀ f : Filters,
      (do return f.add (← ofCatalog (c.resolveDimension e.1)) e.2) =
        (.ok (f.add e.1 e.2) : Except (Fault QuestionError) Filters) := fun e he f => by
    rw [h e.1 (List.mem_map_of_mem he)]
    rfl
  refine (foldlM_eq_ok hstep .empty).trans (congrArg _ ?_)
  exact Filters.foldl_update (fun values old => old.getD [] ++ values) (fun _ => List.nil_append _)
    [] candidate.filters.entries candidate.filters.ascending .nil

theorem asked_ofQuery {q : MetricQuery} (h : DatePhrase.resolve question today = .ok none) :
    Asked question (.ofQuery q) today q.start q.stop := by
  have hiso : ∀ d : Date, some d.iso >>= Text.nonBlank? = some d.iso := fun d => by
    rw [Option.bind_eq_bind, Option.bind_some]
    exact Text.nonBlank?_eq_some (by simp [Date.iso, Date.isoText]) d.isBlank_iso
  exact .dates h rfl (hiso q.start) (hiso q.stop) q.start.ofField?_iso q.stop.ofField?_iso

/-- **An exact candidate is translated to exactly its query.**  If the metric and the dimensions of
a valid query stand for themselves and the question says no days, then the candidate that says what
the query says comes out as that query. -/
theorem translate_ofQuery {v : ValidQuery t.catalog t.spine}
    (hmetric : t.catalog.resolveMetric v.query.metric = .ok v.query.metric)
    (hdimensions : ∀ d ∈ v.query.dimensions ++ v.query.filters.keys,
      t.catalog.resolveDimension d = .ok d)
    (hquestion : DatePhrase.resolve question today = .ok none)
    (hread : t.Reads outside question id (.ofQuery v.query)) :
    t.translate outside question id today = .ok v := by
  obtain ⟨m, hv⟩ := v.valid
  obtain ⟨hm, hname⟩ := Catalog.mem_of_metric hv.metric
  have hok := hname ▸ (t.catalog.metric_spelled hm).name
  obtain ⟨hselected, hkeys⟩ := List.forall_mem_append.1 hdimensions
  exact translate_eq_ok.2 ⟨_, v.query, hread, resolve_eq_ok.2 ⟨metricOf_ofQuery hok hmetric,
    dimensionsOf_eq_self.2 hselected, filtersOf_of_self hkeys, asked_ofQuery hquestion, rfl⟩,
    v.validate_query⟩

/-- The visits to Lyon on New Year come out as they are. -/
theorem translate_ofQuery_visits :
    Visits.translator.translate
        (fun _ => .read (.ok (Candidate.ofQuery (Visits.query "Lyon")))) "visits to Lyon"
        (some "scribe") Visits.newYear = .ok (Visits.valid "Lyon") := by
  have hmetric : Visits.catalog.resolveMetric "visits" = .ok "visits" :=
    eq_ok_of_toOption (by decide)
  have hcity : Visits.catalog.resolveDimension "city" = .ok "city" :=
    eq_ok_of_toOption (by decide)
  have hquestion : DatePhrase.resolve "visits to Lyon" Visits.newYear = .ok none :=
    eq_ok_of_toOption (by decide +kernel)
  exact translate_ofQuery (t := Visits.translator) (v := Visits.valid "Lyon") hmetric
    (List.forall_mem_cons.2 ⟨hcity, List.forall_mem_singleton.2 hcity⟩) hquestion
    (Visits.reads_scribe _ _)

end Translator

end SemanticLayer
