import SemanticLayer.Proofs.Query.Validity
import SemanticLayer.Proofs.Question.Spans

/-
# The longest terms win

The terms found in a question may overlap.  The reader goes through them, the
longest first and of equally long ones the first to start, and keeps a term
unless it overlaps one that is kept already.  So it sifts them (`Sifts`):

| terms | what is true of them |
| --- | --- |
| kept | no two of them overlap |
| dropped | each overlaps one that is kept and that comes before it |

In a chain of overlaps a term is dropped only for one that is kept itself, never
for one that was dropped.  The reader asks back exactly when what is kept
stands for several metrics (`longest_wins`).
-/

namespace SemanticLayer.Keywords

/-! ### Sifting -/

/-- All terms of a list are kept or dropped.  Those that are kept do not overlap, and each that is
dropped overlaps one that is kept and comes before it. -/
structure Sifts (found kept dropped : List Found) : Prop where
  all : found.Perm (kept ++ dropped)
  apart : kept.Pairwise fun f g => f.overlaps g = false
  beaten : ∀ f ∈ dropped, ∃ k ∈ kept, k.overlaps f = true ∧ k.before f = true

/-- **One more term is sifted,** behind all others. -/
theorem Sifts.keep {seen kept dropped : List Found} (h : Sifts seen kept dropped) {f : Found}
    (hlast : ∀ g ∈ seen, g.before f = true) :
    ∃ dropped', Sifts (seen ++ [f]) (keep kept f) dropped' := by
  have hall : (seen ++ [f]).Perm (kept ++ dropped ++ [f]) := h.all.append_right [f]
  have hapart := pairwise_keep h.apart f
  rw [Keywords.keep] at hapart ⊢
  by_cases hoverlaps : kept.any (·.overlaps f) = true
  · rw [if_pos hoverlaps] at hapart ⊢
    obtain ⟨k, hk, hkf⟩ := List.any_eq_true.1 hoverlaps
    have hseen : k ∈ seen := h.all.mem_iff.2 (List.mem_append_left _ hk)
    refine ⟨dropped ++ [f], by rwa [← List.append_assoc], hapart, fun g hg => ?_⟩
    rcases List.mem_append.1 hg with hg | hg
    · exact h.beaten g hg
    · rw [List.mem_singleton.1 hg]
      exact ⟨k, hk, hkf, hlast k hseen⟩
  · rw [if_neg hoverlaps] at hapart ⊢
    refine ⟨dropped, ?_, hapart, fun g hg => ?_⟩
    · rw [List.append_assoc] at hall ⊢
      exact hall.trans (List.perm_append_comm.append_left kept)
    · obtain ⟨k, hk, hbeats⟩ := h.beaten g hg
      exact ⟨k, List.mem_append_left _ hk, hbeats⟩

/-- So are the terms of a list that is in order. -/
theorem Sifts.foldl {seen kept dropped : List Found} (h : Sifts seen kept dropped)
    {found : List Found} (hsorted : (seen ++ found).Pairwise fun f g => f.before g = true) :
    ∃ dropped', Sifts (seen ++ found) (found.foldl Keywords.keep kept) dropped' := by
  induction found generalizing seen kept dropped with
  | nil => exact ⟨dropped, by rwa [List.append_nil]⟩
  | cons f found ih =>
    have hlast : ∀ g ∈ seen, g.before f = true := fun g hg =>
      (List.pairwise_append.1 hsorted).2.2 g hg f List.mem_cons_self
    obtain ⟨dropped', hnext⟩ := h.keep hlast
    rw [List.append_cons] at hsorted ⊢
    exact ih hnext hsorted

/-- **The terms that are found are sifted** into the longest and the others. -/
theorem exists_sifts_longest (found : List Found) : ∃ dropped, Sifts found (longest found) dropped := by
  have hnone : Sifts [] [] [] := ⟨.nil, .nil, nofun⟩
  have hsorted : ([] ++ found.mergeSort Found.before : List Found).Pairwise
      fun f g => f.before g = true :=
    List.pairwise_mergeSort Found.before_trans Found.before_total found
  obtain ⟨dropped, h⟩ := hnone.foldl hsorted
  rw [List.nil_append] at h
  -- the last sort brings what is kept into the order of the question
  have hkept : (longest found).Perm ((found.mergeSort Found.before).foldl keep []) :=
    List.mergeSort_perm _ _
  refine ⟨dropped, ?_, ?_, fun f hf => ?_⟩
  · exact (List.mergeSort_perm found Found.before).symm.trans
      (h.all.trans (hkept.symm.append_right dropped))
  · exact hkept.symm.pairwise h.apart fun {f g} hfg => by rw [Found.overlaps_comm, hfg]
  · obtain ⟨k, hk, hbeats⟩ := h.beaten f hf
    exact ⟨k, hkept.mem_iff.2 hk, hbeats⟩

/-- Of a chain of overlaps the ends are kept: the one in the middle gives way to the longest, and so
no longer stands in the way of the shortest. -/
example : longest [⟨4, 8, .metric "b"⟩, ⟨7, 10, .metric "c"⟩, ⟨0, 5, .metric "a"⟩] =
    [⟨0, 5, .metric "a"⟩, ⟨7, 10, .metric "c"⟩] := by cbv

/-! ### Questions that name several metrics -/

/-- The metrics that some terms stand for, each once. -/
def metricsOf (found : List Found) : List String :=
  firstOccurrences (found.filterMap Found.metric?)

theorem mem_metricsOf {found : List Found} {name : String} :
    name ∈ metricsOf found ↔ ∃ f ∈ found, f.target = .metric name := by
  rw [metricsOf, mem_firstOccurrences, List.mem_filterMap]
  simp only [Found.metric?_eq_some]

theorem nodup_metricsOf (found : List Found) : (metricsOf found).Nodup :=
  nodup_firstOccurrences _

/-- There are several metrics exactly when some terms stand for different ones. -/
theorem one_lt_length_metricsOf {found : List Found} :
    1 < (metricsOf found).length ↔ ∃ f ∈ found, ∃ g ∈ found, ∃ a b,
      f.target = .metric a ∧ g.target = .metric b ∧ a ≠ b := by
  constructor
  · intro h
    have hnodup := nodup_metricsOf found
    obtain ⟨a, b, rest, hnames⟩ : ∃ a b rest, metricsOf found = a :: b :: rest := by
      match metricsOf found, h with
      | a :: b :: rest, _ => exact ⟨a, b, rest, rfl⟩
    have hmem : ∀ name ∈ a :: b :: rest, ∃ f ∈ found, f.target = .metric name :=
      fun name hname => mem_metricsOf.1 (hnames ▸ hname)
    obtain ⟨f, hf, ha⟩ := hmem a (by simp)
    obtain ⟨g, hg, hb⟩ := hmem b (by simp)
    rw [hnames, List.nodup_cons] at hnodup
    exact ⟨f, hf, g, hg, a, b, ha, hb, fun heq => hnodup.1 (heq ▸ List.mem_cons_self)⟩
  · rintro ⟨f, hf, g, hg, a, b, ha, hb, hne⟩
    have hfirst : a ∈ metricsOf found := mem_metricsOf.2 ⟨f, hf, ha⟩
    have hother : b ∈ metricsOf found := mem_metricsOf.2 ⟨g, hg, hb⟩
    cases hnames : metricsOf found with
    | nil =>
      rw [hnames] at hfirst
      cases hfirst
    | cons name rest =>
      cases rest with
      | nil =>
        rw [hnames, List.mem_singleton] at hfirst hother
        exact absurd (hfirst.trans hother.symm) hne
      | cons next rest => simp

section MetricOf

variable {question lowered : List Char} {found : List Found}

/-- There is no one metric among several, and all of them are told. -/
theorem exists_metricOf_eq_error (h : 1 < (metricsOf found).length) :
    ∃ term, metricOf question lowered found = .error (.ambiguous term (metricsOf found)) := by
  unfold metricOf
  rw [← metricsOf]
  match metricsOf found, h with
  | a :: b :: rest, _ => exact ⟨_, rfl⟩

/-- **Only several metrics** are no one metric. -/
theorem several_of_metricOf_eq_error {e : ProviderError}
    (h : metricOf question lowered found = .error e) :
    1 < (metricsOf found).length ∧ ∃ term, e = .ambiguous term (metricsOf found) := by
  unfold metricOf at h
  rw [← metricsOf] at h
  match metricsOf found, h with
  | a :: b :: rest, h =>
    cases h
    exact ⟨by simp, _, rfl⟩

end MetricOf

/-- The reader fails as the choice of the metric does. -/
theorem read_eq_error_iff {h : Hint} {question : String} {e : ProviderError} :
    read h question = .error e ↔
      metricOf question.toList (lowered question) (kept h question) = .error e := by
  refine bind_eq_error.trans (or_iff_left ?_)
  rintro ⟨metric, -, hrest⟩
  cases hrest

/-- **The longest terms win.**  Whatever the hint and the question, each term that is found is kept
or dropped.  Those that are kept do not overlap, and each that is dropped, of a metric or not,
overlaps one that is kept and is longer, or equally long and starts no later.  The reader asks back
exactly when what is kept stands for different metrics, and it never fails in another way; then it
lists all of them. -/
theorem longest_wins (h : Hint) (question : String) :
    (∃ dropped, (collect h (lowered question)).Perm (kept h question ++ dropped) ∧
      (kept h question).Pairwise (fun f g => f.overlaps g = false) ∧
      (∀ f ∈ dropped, ∃ k ∈ kept h question, k.overlaps f = true ∧
        (f.length < k.length ∨ (f.length = k.length ∧ k.start ≤ f.start))) ∧
      ∀ f ∈ dropped, ∀ name, f.target = .metric name →
        ∃ k ∈ kept h question, k.overlaps f = true ∧ f.length ≤ k.length) ∧
    ((∃ term names, read h question = .error (.ambiguous term names)) ↔
      ∃ f ∈ kept h question, ∃ g ∈ kept h question, ∃ a b,
        f.target = .metric a ∧ g.target = .metric b ∧ a ≠ b) ∧
    ∀ e, read h question = .error e → ∃ term names, e = .ambiguous term names ∧ names.Nodup ∧
      ∀ name, name ∈ names ↔ ∃ f ∈ kept h question, f.target = .metric name := by
  refine ⟨?_, ?_, fun e he => ?_⟩
  · obtain ⟨dropped, hall, hapart, hbeaten⟩ := exists_sifts_longest (collect h (lowered question))
    have hwins : ∀ f ∈ dropped, ∃ k ∈ kept h question, k.overlaps f = true ∧
        (f.length < k.length ∨ (f.length = k.length ∧ k.start ≤ f.start)) := by
      intro f hf
      obtain ⟨k, hk, hoverlaps, hbefore⟩ := hbeaten f hf
      exact ⟨k, hk, hoverlaps, (Found.before_iff.1 hbefore).imp_right (.imp_left Eq.symm)⟩
    refine ⟨dropped, hall, hapart, hwins, fun f hf _ _ => ?_⟩
    obtain ⟨k, hk, hoverlaps, hlonger⟩ := hwins f hf
    exact ⟨k, hk, hoverlaps, by omega⟩
  · rw [← one_lt_length_metricsOf]
    constructor
    · rintro ⟨term, names, hread⟩
      exact (several_of_metricOf_eq_error (read_eq_error_iff.1 hread)).1
    · intro hseveral
      obtain ⟨term, hterm⟩ := exists_metricOf_eq_error hseveral
      exact ⟨term, _, read_eq_error_iff.2 hterm⟩
  · obtain ⟨-, term, rfl⟩ := several_of_metricOf_eq_error (read_eq_error_iff.1 he)
    exact ⟨term, _, rfl, nodup_metricsOf _, fun name => mem_metricsOf⟩

/-! ### A metric within a longer one -/

namespace Growth

def entry (name : String) : HintEntry := ⟨name, "", "", [], []⟩

/-- Three metrics, of which one is called like the start of another. -/
def hint : Hint := ⟨[entry "sales", entry "sales growth", entry "profit"], []⟩

theorem kept_growth : kept hint "Sales growth and profit" =
    [⟨0, 12, .metric "sales growth"⟩, ⟨17, 23, .metric "profit"⟩] := by
  have hcollect : collect hint (lowered "Sales growth and profit") =
      [⟨0, 5, .metric "sales"⟩, ⟨0, 12, .metric "sales growth"⟩, ⟨17, 23, .metric "profit"⟩] := by
    decide +kernel
  rw [kept, hcollect]
  cbv

end Growth

open Growth in
/-- The longer metric is kept and the one within it is not, so the question asks for two. -/
theorem longest_wins_growth : ∃ term names,
    read hint "Sales growth and profit" = .error (.ambiguous term names) ∧ names.Nodup ∧
      ∀ name, name ∈ names ↔ name = "sales growth" ∨ name = "profit" := by
  obtain ⟨-, hasks, hlists⟩ := longest_wins hint "Sales growth and profit"
  rw [kept_growth] at hasks hlists
  obtain ⟨term, names, hread⟩ := hasks.2
    ⟨_, .head _, _, .tail _ (.head _), "sales growth", "profit", rfl, rfl, by decide⟩
  obtain ⟨_, _, heq, hnodup, hmem⟩ := hlists _ hread
  cases heq
  refine ⟨term, names, hread, hnodup, fun name => ?_⟩
  rw [hmem]
  simp [eq_comm]

end SemanticLayer.Keywords
