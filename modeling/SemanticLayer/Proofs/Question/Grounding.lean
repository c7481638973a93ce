import SemanticLayer.Proofs.Catalog.Identifiers
import SemanticLayer.Proofs.Question.ExactNames
import SemanticLayer.Proofs.Question.Spans

/-
# Candidates that a question bears out

The keyword reader does not guess.  Each part of its candidate has a span of the
question to itself, where a term for it stands, and the parts are listed as
these spans follow one another (`read_grounded`):

| part | terms |
| --- | --- |
| metric, dimension | its name, its label, its synonyms |
| value of a filter | the value |
-/

namespace SemanticLayer

/-! ### Lists and filters -/

section FirstOccurrences

variable {α β : Type} [BEq β] [LawfulBEq β] {key : α → Option β} {R : α → α → Prop}

/-- An element is not the first with a key that is left after its own has been seen. -/
theorem find?_of_mem_go {x : α} {k c : β} {ks seen : List β} (hkey : key x = some k)
    (hk : k ∈ seen) (hc : c ∈ firstOccurrences.go seen ks) (xs : List α) :
    (x :: xs).find? (key · == some c) = xs.find? (key · == some c) := by
  have hne : k ≠ c := by
    rintro rfl
    exact (mem_firstOccurrences_go.1 hc).2 hk
  exact List.find?_cons_of_neg (by simpa [hkey] using hne)

/-- The keys of a list, each once, are in the order of the first elements that have them. -/
theorem pairwise_firstOccurrences_go {xs : List α} (h : xs.Pairwise R) (seen : List β) :
    (firstOccurrences.go seen (xs.filterMap key)).Pairwise fun a b =>
      ∀ x y, xs.find? (key · == some a) = some x → xs.find? (key · == some b) = some y →
        R x y := by
  induction xs generalizing seen with
  | nil => exact .nil
  | cons x xs ih =>
    obtain ⟨hx, hxs⟩ := List.pairwise_cons.1 h
    cases hkey : key x with
    | none =>
      have hskip : ∀ a, (x :: xs).find? (key · == some a) = xs.find? (key · == some a) :=
        fun a => List.find?_cons_of_neg (by simp [hkey])
      rw [List.filterMap_cons_none hkey]
      refine (ih hxs seen).imp fun {a b} hab => ?_
      rw [hskip a, hskip b]
      exact hab
    | some k =>
      -- what is left of the keys is other than the first
      have htail : ∀ seen : List β, k ∈ seen →
          (firstOccurrences.go seen (xs.filterMap key)).Pairwise fun a b =>
            ∀ x' y, (x :: xs).find? (key · == some a) = some x' →
              (x :: xs).find? (key · == some b) = some y → R x' y := by
        intro seen hseen
        refine (ih hxs seen).imp_of_mem fun {a b} ha hb hab => ?_
        rw [find?_of_mem_go hkey hseen ha, find?_of_mem_go hkey hseen hb]
        exact hab
      rw [List.filterMap_cons_some hkey, firstOccurrences.go]
      split
      · rename_i hseen
        exact htail seen (List.contains_iff_mem.1 hseen)
      · refine List.pairwise_cons.2 ⟨fun b hb => ?_, htail (k :: seen) List.mem_cons_self⟩
        intro x' y hx' hy
        rw [List.find?_cons_of_pos (by simp [hkey])] at hx'
        cases hx'
        rw [find?_of_mem_go hkey List.mem_cons_self hb] at hy
        exact hx y (List.mem_of_find?_eq_some hy)

end FirstOccurrences

namespace Filters

/-- An entry that is set is that of the key, made of what it had. -/
theorem exists_of_mem_setEntry {key : String} {change : Option (List String) → List String}
    {entries : List (String × List String)} {e : String × List String}
    (h : e ∈ setEntry key change entries) :
    e ∈ entries ∨ e = (key, change none) ∨
      ∃ values, (key, values) ∈ entries ∧ e = (key, change (some values)) := by
  induction entries with
  | nil => exact .inr (.inl (List.mem_singleton.1 h))
  | cons x rest ih =>
    obtain ⟨k, values⟩ := x
    rw [setEntry] at h
    split at h
    · rcases List.mem_cons.1 h with rfl | h
      · exact .inr (.inl rfl)
      · exact .inl h
    · split at h
      · rename_i hkey
        rcases List.mem_cons.1 h with rfl | h
        · exact .inr (.inr ⟨values, hkey ▸ List.mem_cons_self, by rw [hkey]⟩)
        · exact .inl (List.mem_cons_of_mem _ h)
      · rcases List.mem_cons.1 h with rfl | h
        · exact .inl List.mem_cons_self
        · rcases ih h with h | h | ⟨old, hold, rfl⟩
          · exact .inl (List.mem_cons_of_mem _ h)
          · exact .inr (.inl h)
          · exact .inr (.inr ⟨old, List.mem_cons_of_mem _ hold, rfl⟩)

/-- Each value of the filters satisfies a condition, and no key is without values. -/
def Holds (f : Filters) (p : String → String → Prop) : Prop :=
  ∀ e ∈ f.entries, e.2 ≠ [] ∧ ∀ v ∈ e.2, p e.1 v

/-- A value is added. -/
theorem Holds.add {f : Filters} {p : String → String → Prop} (hf : f.Holds p) {key value : String}
    (hvalue : p key value) : (f.add key [value]).Holds p := by
  intro e he
  rcases exists_of_mem_setEntry he with he | rfl | ⟨old, hold, rfl⟩
  · exact hf e he
  · exact ⟨List.cons_ne_nil _ _, by simpa using hvalue⟩
  · refine ⟨by simp, List.forall_mem_append.2 ⟨(hf _ hold).2, by simpa using hvalue⟩⟩

/-- **All values are added.** -/
theorem Holds.foldl_add {f : Filters} {p : String → String → Prop} (hf : f.Holds p)
    {values : List (String × String)} (hvalues : ∀ v ∈ values, p v.1 v.2) :
    (values.foldl (fun f (key, value) => f.add key [value]) f).Holds p := by
  induction values generalizing f with
  | nil => exact hf
  | cons v values ih =>
    obtain ⟨hv, hmore⟩ := List.forall_mem_cons.1 hvalues
    exact ih (hf.add hv) hmore

end Filters

namespace Keywords

open Text

/-- **Filters of values** have these values, each once, and none without one. -/
theorem mem_filtersOf {values : List (String × String)} {e : String × List String}
    (he : e ∈ (filtersOf values).entries) :
    e.2 ≠ [] ∧ e.2.Nodup ∧ ∀ v ∈ e.2, (e.1, v) ∈ values := by
  obtain ⟨built, hbuilt, rfl⟩ := List.mem_map.1 he
  have hempty : Filters.empty.Holds fun key value => (key, value) ∈ values := nofun
  obtain ⟨hne, hvalues⟩ := hempty.foldl_add (fun v hv => hv) built hbuilt
  refine ⟨?_, nodup_firstOccurrences _, fun v hv => hvalues v (mem_firstOccurrences.1 hv)⟩
  obtain ⟨v, hv⟩ := List.exists_mem_of_ne_nil _ hne
  exact List.ne_nil_of_mem (mem_firstOccurrences.2 hv)

/-! ### What stands for what -/

/-- A term that an entry of a catalog goes by, or one of its closed values. -/
def Target.GoesBy (c : Catalog) (term : String) : Target → Prop
  | .metric name => ∃ m ∈ c.metrics, m.name = name ∧ term ∈ m.name :: m.label :: m.synonyms
  | .dimension name => ∃ d ∈ c.dimensions, d.name = name ∧ term ∈ d.name :: d.label :: d.synonyms
  | .value name v => ∃ d ∈ c.dimensions, d.name = name ∧ v ∈ d.values ∧ term = v

/-- **What a term of a hint stands for goes by it.** -/
theorem goesBy_of_mem_targets {c : Catalog} {term : String} {t : Target}
    (h : (term, t) ∈ targets c.hint) : t.GoesBy c term := by
  rcases List.mem_append.1 h with h | h
  · obtain ⟨_, hm, h⟩ := List.mem_flatMap.1 h
    obtain ⟨m, hmem, rfl⟩ := List.mem_map.1 hm
    obtain ⟨_, hterm, heq⟩ := List.mem_map.1 h
    cases heq
    exact ⟨m, hmem, rfl, (List.mem_filter.1 hterm).1⟩
  · obtain ⟨_, hd, h⟩ := List.mem_flatMap.1 h
    obtain ⟨d, hmem, rfl⟩ := List.mem_map.1 hd
    rcases List.mem_append.1 h with h | h
    · obtain ⟨_, hterm, heq⟩ := List.mem_map.1 h
      cases heq
      exact ⟨d, hmem, rfl, (List.mem_filter.1 hterm).1⟩
    · obtain ⟨_, hvalue, heq⟩ := List.mem_map.1 h
      cases heq
      exact ⟨d, hmem, rfl, hvalue, rfl⟩

/-- The parts of a candidate: its metric, its dimensions and the values of its filters. -/
def Names (candidate : Candidate) : Target → Prop
  | .metric name => candidate.metric = some name
  | .dimension name => name ∈ candidate.dimensions
  | .value key value => ∃ values, (key, values) ∈ candidate.filters.entries ∧ value ∈ values

/-! ### What the reader keeps -/

section Read

variable {c : Catalog} {question : String} {candidate : Candidate}
  (h : read c.hint question = .ok candidate)
include h

theorem read_eq : ∃ metric, metricOf question.toList (lowered question) (kept c.hint question) =
      .ok metric ∧ candidate = { Candidate.blank with
        metric
        dimensions := firstOccurrences ((kept c.hint question).filterMap Found.dimension?)
        filters := filtersOf ((kept c.hint question).filterMap Found.value?)
        grain := grainOf (lowered question) } := by
  obtain ⟨metric, hmetric, h⟩ := bind_eq_ok.1 h
  exact ⟨metric, hmetric, (Except.ok.inj h).symm⟩

/-- The values of a filter are kept, each once. -/
theorem mem_kept_of_filters {e : String × List String} (he : e ∈ candidate.filters.entries) :
    e.2 ≠ [] ∧ e.2.Nodup ∧ ∀ v ∈ e.2, ∃ f ∈ kept c.hint question, f.target = .value e.1 v := by
  obtain ⟨metric, -, rfl⟩ := read_eq h
  obtain ⟨hne, hnodup, hvalues⟩ := mem_filtersOf he
  refine ⟨hne, hnodup, fun v hv => ?_⟩
  obtain ⟨f, hf, hvalue⟩ := List.mem_filterMap.1 (hvalues v hv)
  exact ⟨f, hf, Found.value?_eq_some.1 hvalue⟩

/-- **Each part of a candidate is kept.** -/
theorem exists_kept_of_names {t : Target} (ht : Names candidate t) :
    ∃ f ∈ kept c.hint question, f.target = t := by
  cases t with
  | metric name =>
    obtain ⟨metric, hmetric, rfl⟩ := read_eq h
    obtain rfl : metric = some name := ht
    exact exists_of_metricOf hmetric
  | dimension name =>
    obtain ⟨metric, -, rfl⟩ := read_eq h
    obtain ⟨f, hf, hname⟩ := List.mem_filterMap.1 (mem_firstOccurrences.1 ht)
    exact ⟨f, hf, Found.dimension?_eq_some.1 hname⟩
  | value key value =>
    obtain ⟨values, hentry, hvalue⟩ := ht
    exact (mem_kept_of_filters h hentry).2.2 value hvalue

/-- **A filter is on a dimension of the catalog** and has values of that one alone. -/
theorem exists_dimension_of_filters {e : String × List String}
    (he : e ∈ candidate.filters.entries) :
    ∃ d ∈ c.dimensions, d.name = e.1 ∧ ∀ v ∈ e.2, v ∈ d.values := by
  obtain ⟨hne, -, hvalues⟩ := mem_kept_of_filters h he
  have hclosed : ∀ v ∈ e.2, ∃ d ∈ c.dimensions, d.name = e.1 ∧ v ∈ d.values := by
    intro v hv
    obtain ⟨f, hf, htarget⟩ := hvalues v hv
    obtain ⟨term, hterm, -⟩ := standsAt_of_mem_kept hf
    rw [htarget] at hterm
    obtain ⟨d, hd, hname, hvalue, -⟩ := goesBy_of_mem_targets hterm
    exact ⟨d, hd, hname, hvalue⟩
  obtain ⟨v, hv⟩ := List.exists_mem_of_ne_nil _ hne
  obtain ⟨d, hd, hname, -⟩ := hclosed v hv
  refine ⟨d, hd, hname, fun w hw => ?_⟩
  obtain ⟨d', hd', hname', hvalue⟩ := hclosed w hw
  obtain rfl := List.inj_on_of_nodup_map c.nodup_dimensionNames hd' hd (hname'.trans hname.symm)
  exact hvalue

end Read

/-! ### Spans -/

/-- What is kept first for a target. -/
def firstKept (h : Hint) (question : String) (t : Target) : Option Found :=
  (kept h question).find? (·.target == t)

/-- What is kept for a target is not kept before the first. -/
theorem exists_firstKept {h : Hint} {question : String} {t : Target}
    (ht : ∃ f ∈ kept h question, f.target = t) :
    ∃ f ∈ kept h question, firstKept h question t = some f ∧ f.target = t ∧
      ∀ g ∈ kept h question, g.target = t → f.start ≤ g.start := by
  obtain ⟨f, hf⟩ : ∃ f, firstKept h question t = some f := by
    rw [← Option.isSome_iff_exists, firstKept, List.find?_isSome]
    obtain ⟨f, hf, htarget⟩ := ht
    exact ⟨f, hf, beq_iff_eq.2 htarget⟩
  obtain ⟨htarget, before, behind, hsplit, hbefore⟩ := List.find?_eq_some_iff_append.1 hf
  have hmem := List.mem_of_find?_eq_some hf
  refine ⟨f, hmem, hf, beq_iff_eq.1 htarget, fun g hg hgt => ?_⟩
  have hordered := pairwise_kept h question
  rw [hsplit] at hg hordered
  rcases List.mem_append.1 hg with hg | hg
  · have hnot := hbefore g hg
    simp [hgt] at hnot
  · rcases List.mem_cons.1 hg with rfl | hg
    · exact Nat.le_refl _
    · have hle := (List.pairwise_cons.1 (List.pairwise_append.1 hordered).2.1).1 g hg
      have hlt := start_lt_stop (mem_collect_of_mem_kept hmem)
      omega

/-- **Dimensions are in the order in which they are kept first.** -/
theorem pairwise_firstKept (h : Hint) (question : String) :
    (firstOccurrences ((kept h question).filterMap Found.dimension?)).Pairwise fun a b =>
      ∀ f g, firstKept h question (.dimension a) = some f →
        firstKept h question (.dimension b) = some g → f.stop ≤ g.start := by
  have hkey : ∀ name, (kept h question).find? (·.dimension? == some name) =
      firstKept h question (.dimension name) := by
    intro name
    refine List.find?_congr fun f _ => ?_
    rw [Bool.eq_iff_iff, beq_iff_eq, beq_iff_eq, Found.dimension?_eq_some]
  refine (pairwise_firstOccurrences_go (pairwise_kept h question) []).imp fun {a b} hab => ?_
  rw [← hkey, ← hkey]
  exact hab

/-- The parts of a candidate have spans of their own in a question, and the candidate follows
them. -/
structure Grounded (c : Catalog) (question : String) (candidate : Candidate)
    (span : Target → Nat × Nat) : Prop where
  stands : ∀ t, Names candidate t → ∃ term, t.GoesBy c term ∧
    StandsAt (lowered question) (lowerFrom [] term.toList) (span t)
  apart : ∀ t u, Names candidate t → Names candidate u → t ≠ u →
    (span t).2 ≤ (span u).1 ∨ (span u).2 ≤ (span t).1
  first : ∀ t, Names candidate t → ∃ f ∈ kept c.hint question, f.target = t ∧ f.place = span t ∧
    ∀ g ∈ kept c.hint question, g.target = t → f.start ≤ g.start
  dimensions_nodup : candidate.dimensions.Nodup
  dimensions_ordered : candidate.dimensions.Pairwise fun a b =>
    (span (.dimension a)).1 < (span (.dimension b)).1
  filters : ∀ e ∈ candidate.filters.entries, e.2 ≠ [] ∧ e.2.Nodup ∧
    ∃ d ∈ c.dimensions, d.name = e.1 ∧ ∀ v ∈ e.2, v ∈ d.values
  untimed : candidate.timePhrase = none ∧ candidate.start = none ∧ candidate.stop = none

/-- **The keyword reader never guesses.**  Whatever the question, each part of a candidate has a span
of it to itself, which is a term for that part in lower case and, if it is ASCII, no part of a
longer ASCII word.  The dimensions are listed once, in the order of these spans; a filter is on a
dimension of the catalog and has some of its closed values, each once; and no days are read. -/
theorem read_grounded {c : Catalog} {question : String} {candidate : Candidate}
    (h : read c.hint question = .ok candidate) :
    ∃ span, Grounded c question candidate span := by
  have hfirst : ∀ t, Names candidate t → ∃ f ∈ kept c.hint question,
      firstKept c.hint question t = some f ∧ f.target = t ∧
        ∀ g ∈ kept c.hint question, g.target = t → f.start ≤ g.start :=
    fun t ht => exists_firstKept (exists_kept_of_names h ht)
  let span : Target → Nat × Nat := fun t =>
    ((firstKept c.hint question t).map Found.place).getD (0, 0)
  have hspan : ∀ {t f}, firstKept c.hint question t = some f → span t = f.place := fun hf => by
    simp only [span, hf]
    rfl
  refine ⟨span, ?_, ?_, ?_, ?_, ?_, ?_, ?_⟩
  · intro t ht
    obtain ⟨f, hf, hkept, rfl, -⟩ := hfirst t ht
    obtain ⟨term, hterm, hstands⟩ := standsAt_of_mem_kept hf
    exact ⟨term, goesBy_of_mem_targets hterm, hspan hkept ▸ hstands⟩
  · intro t u ht hu hne
    obtain ⟨f, hf, hkept, rfl, -⟩ := hfirst t ht
    obtain ⟨g, hg, hkept', rfl, -⟩ := hfirst u hu
    rw [hspan hkept, hspan hkept']
    exact apart_of_mem_kept hf hg fun heq => hne (congrArg Found.target heq)
  · intro t ht
    obtain ⟨f, hf, hkept, htarget, hleast⟩ := hfirst t ht
    exact ⟨f, hf, htarget, (hspan hkept).symm, hleast⟩
  · obtain ⟨metric, -, rfl⟩ := read_eq h
    exact nodup_firstOccurrences _
  · have hdimensions : candidate.dimensions =
        firstOccurrences ((kept c.hint question).filterMap Found.dimension?) := by
      obtain ⟨metric, -, rfl⟩ := read_eq h
      rfl
    have hordered := pairwise_firstKept c.hint question
    rw [← hdimensions] at hordered
    refine hordered.imp_of_mem fun {a b} ha hb hab => ?_
    obtain ⟨f, hf, hkept, -⟩ := hfirst (.dimension a) ha
    obtain ⟨g, -, hkept', -⟩ := hfirst (.dimension b) hb
    rw [hspan hkept, hspan hkept']
    exact Nat.lt_of_lt_of_le (start_lt_stop (mem_collect_of_mem_kept hf)) (hab f g hkept hkept')
  · intro e he
    obtain ⟨hne, hnodup, -⟩ := mem_kept_of_filters h he
    exact ⟨hne, hnodup, exists_dimension_of_filters h he⟩
  · obtain ⟨metric, -, rfl⟩ := read_eq h
    exact ⟨rfl, rfl, rfl⟩

end Keywords

/-! ### A value within a longer one -/

namespace Visits

/-- The visits to two cities, of which one is called like a part of the other. -/
def yorks : Catalog :=
  ⟨⟨"visits", "Visits", "", ⟨"visits", "visited_on"⟩, [metric],
    [{ city with values := ["York", "New York"] }]⟩, by rfl⟩

/-- The visits to the longer one. -/
def newYork : Candidate := { Candidate.blank with
  metric := some "visits"
  dimensions := ["city"]
  filters := ⟨[("city", ["New York"])], List.pairwise_singleton _ _⟩ }

open Keywords in
theorem read_newYork : read yorks.hint "Visits to New York by city" = .ok newYork := by
  have hcollect : collect yorks.hint (lowered "Visits to New York by city") =
      [⟨0, 6, .metric "visits"⟩, ⟨0, 6, .metric "visits"⟩, ⟨22, 26, .dimension "city"⟩,
        ⟨22, 26, .dimension "city"⟩, ⟨14, 18, .value "city" "York"⟩,
        ⟨10, 18, .value "city" "New York"⟩] := by decide +kernel
  have hkept : kept yorks.hint "Visits to New York by city" =
      [⟨0, 6, .metric "visits"⟩, ⟨10, 18, .value "city" "New York"⟩,
        ⟨22, 26, .dimension "city"⟩] := by
    rw [kept, hcollect]
    cbv
  have hlongest : longest (collect yorks.hint
      (Text.lowerFrom [] "Visits to New York by city".toList)) = _ := hkept
  simp only [Keywords.read, hlongest]
  exact eq_ok_of_toOption (by decide)

end Visits

namespace Keywords

open Visits in
/-- The longer name is read where it stands, and the shorter one within it is not. -/
theorem read_grounded_newYork :
    read yorks.hint "Visits to New York by city" = .ok newYork ∧
      ∃ span, Grounded yorks "Visits to New York by city" newYork span :=
  ⟨read_newYork, read_grounded read_newYork⟩

end Keywords

end SemanticLayer
