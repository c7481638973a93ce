import Mathlib
import SemanticLayer.Question.Keywords

/-
# What is kept of a question, and where the order of a hint shows

The terms found in a question compete for its bytes.  Which places win is told
by their lengths and starts alone (`longest_map_standFor`), so it does not
depend on the order of the entries.  What a place is kept for does: of the terms
found at one place the first of the hint is kept (`find?_place_of_mem_longest`),
the sort being stable.  A metric comes before every dimension, so a place that
two metrics share goes to the metric defined first, and nobody is told.
Where no place that is kept is contested in this way, the order of the hint does
not matter (`kept_reordered`).
-/

namespace SemanticLayer

/-- The same entries in some order. -/
structure Hint.Reorders (h' h : Hint) : Prop where
  metrics : h'.metrics.Perm h.metrics
  dimensions : h'.dimensions.Perm h.dimensions

namespace Keywords

open Text

/-! ### Places -/

/-- The bytes that a term takes up. -/
def Found.place (f : Found) : Nat × Nat := (f.start, f.stop)

/-- The same place, kept for something else. -/
def Found.standFor (target : Target) (f : Found) : Found := { f with target }

theorem Found.ext_place {f g : Found} (hplace : f.place = g.place) (htarget : f.target = g.target) :
    f = g := by
  cases f
  cases g
  cases hplace
  cases htarget
  rfl

theorem Found.metric?_eq_some {f : Found} {name : String} :
    f.metric? = some name ↔ f.target = .metric name := by
  obtain ⟨start, stop, target⟩ := f
  cases target <;> simp [metric?]

theorem Found.dimension?_eq_some {f : Found} {name : String} :
    f.dimension? = some name ↔ f.target = .dimension name := by
  obtain ⟨start, stop, target⟩ := f
  cases target <;> simp [dimension?]

theorem Found.value?_eq_some {f : Found} {key value : String} :
    f.value? = some (key, value) ↔ f.target = .value key value := by
  obtain ⟨start, stop, target⟩ := f
  cases target <;> simp [value?]

theorem le_foldl_utf8Size (cs : List Char) (n : Nat) :
    n ≤ cs.foldl (fun n c => n + c.utf8Size) n := by
  induction cs generalizing n with
  | nil => exact Nat.le_refl n
  | cons c cs ih => exact Nat.le_trans (Nat.le_add_right n c.utf8Size) (ih (n + c.utf8Size))

/-- A text that is not empty has bytes. -/
theorem byteCount_pos {cs : List Char} (h : cs ≠ []) : 0 < byteCount cs := by
  cases cs with
  | nil => exact absurd rfl h
  | cons c cs =>
    have hpos : 0 < 0 + c.utf8Size := by
      rw [Nat.zero_add]
      exact c.utf8Size_pos
    exact Nat.lt_of_lt_of_le hpos (le_foldl_utf8Size cs (0 + c.utf8Size))

/-- The empty term is found nowhere. -/
theorem offsets_findTerm_nil (start : Nat) (before : Option Char) (cs : List Char) :
    offsets start (pieces (findTerm []) before cs) = [] := by
  induction cs generalizing start before with
  | nil => rw [pieces, offsets]
  | cons c cs ih =>
    have hnone : findTerm [] before (c :: cs) = none := rfl
    rw [pieces, hnone, offsets, ih]

theorem ne_nil_of_mem_offsets {term : List Char} {start offset : Nat} {before : Option Char}
    {cs : List Char} (h : offset ∈ offsets start (pieces (findTerm term) before cs)) :
    term ≠ [] := by
  rintro rfl
  rw [offsets_findTerm_nil] at h
  cases h

/-- A term that is found takes up bytes. -/
theorem start_lt_stop_of_mem_places {question : List Char} {term : String} {target : Target}
    {f : Found} (h : f ∈ places question term target) : f.start < f.stop := by
  obtain ⟨start, hstart, rfl⟩ := List.mem_map.1 h
  exact Nat.lt_add_of_pos_right (byteCount_pos (ne_nil_of_mem_offsets hstart))

theorem start_lt_stop {h : Hint} {question : List Char} {f : Found} (hf : f ∈ collect h question) :
    f.start < f.stop := by
  obtain ⟨⟨term, target⟩, -, hmem⟩ := List.mem_flatMap.1 hf
  exact start_lt_stop_of_mem_places hmem

/-! ### Longer terms first -/

namespace Found

theorem before_iff {f g : Found} :
    f.before g = true ↔ g.length < f.length ∨ (f.length = g.length ∧ f.start ≤ g.start) := by
  simp only [before, Bool.or_eq_true, Bool.and_eq_true, decide_eq_true_eq, beq_iff_eq]

theorem before_trans (f g k : Found) (hfg : f.before g = true) (hgk : g.before k = true) :
    f.before k = true := by
  rw [before_iff] at *
  omega

theorem before_total (f g : Found) : (f.before g || g.before f) = true := by
  rw [Bool.or_eq_true, before_iff, before_iff]
  omega

theorem before_of_place_eq {f g : Found} (h : f.place = g.place) : f.before g = true := by
  have hstart : f.start = g.start := congrArg Prod.fst h
  have hstop : f.stop = g.stop := congrArg Prod.snd h
  rw [before_iff, length, length]
  omega

/-- Terms that come before each other have one place. -/
theorem place_eq_of_before {f g : Found} (hf : f.start < f.stop) (hg : g.start < g.stop)
    (hfg : f.before g = true) (hgf : g.before f = true) : f.place = g.place := by
  rw [before_iff, length, length] at hfg hgf
  have hstart : f.start = g.start := by omega
  have hstop : f.stop = g.stop := by omega
  rw [place, place, hstart, hstop]

theorem overlaps_self {f : Found} (h : f.start < f.stop) : f.overlaps f = true :=
  decide_eq_true ⟨h, h⟩

theorem overlaps_of_place_eq {f g k : Found} (h : f.place = g.place) :
    k.overlaps f = k.overlaps g := by
  have hstart : f.start = g.start := congrArg Prod.fst h
  have hstop : f.stop = g.stop := congrArg Prod.snd h
  rw [overlaps, overlaps, hstart, hstop]

end Found

/-- **The sort is stable:** the terms of one place stay in their order. -/
theorem filter_mergeSort (found : List Found) (place : Nat × Nat) :
    (found.mergeSort Found.before).filter (·.place == place) =
      found.filter (·.place == place) := by
  have hsorted : (found.filter (·.place == place)).Pairwise fun f g => f.before g = true := by
    refine List.pairwise_iff_forall_sublist.2 fun {f g} hsub => ?_
    have hf := (List.mem_filter.1 (hsub.subset (by simp : f ∈ [f, g]))).2
    have hg := (List.mem_filter.1 (hsub.subset (by simp : g ∈ [f, g]))).2
    exact Found.before_of_place_eq ((beq_iff_eq.1 hf).trans (beq_iff_eq.1 hg).symm)
  have hsub : (found.filter (·.place == place)).Sublist (found.mergeSort Found.before) :=
    List.sublist_mergeSort Found.before_trans Found.before_total hsorted List.filter_sublist
  have hfilter := hsub.filter (·.place == place)
  rw [List.filter_filter] at hfilter
  simp only [Bool.and_self] at hfilter
  have hlength := ((List.mergeSort_perm found Found.before).filter (·.place == place)).length_eq
  exact (hfilter.eq_of_length hlength.symm).symm

/-! ### What is kept -/

/-- What has been kept of the terms seen: each of them overlaps one that is kept, and what is kept
was the first of its place. -/
structure Keeps (seen kept : List Found) : Prop where
  overlapped : ∀ f ∈ seen, ∃ k ∈ kept, k.overlaps f = true
  first : ∀ k ∈ kept, seen.find? (·.place == k.place) = some k

/-- One more term is seen. -/
theorem Keeps.keep {seen kept : List Found} (hkeeps : Keeps seen kept) {f : Found}
    (hf : f.start < f.stop) : Keeps (seen ++ [f]) (keep kept f) := by
  have hfirst : ∀ k ∈ kept, (seen ++ [f]).find? (·.place == k.place) = some k := by
    intro k hk
    rw [List.find?_append, hkeeps.first k hk, Option.some_or]
  rw [Keywords.keep]
  by_cases hoverlaps : kept.any (·.overlaps f) = true
  · rw [if_pos hoverlaps]
    refine ⟨fun g hg => ?_, hfirst⟩
    rcases List.mem_append.1 hg with hg | hg
    · exact hkeeps.overlapped g hg
    · rw [List.mem_singleton.1 hg]
      exact List.any_eq_true.1 hoverlaps
  · rw [if_neg hoverlaps]
    constructor
    · intro g hg
      rcases List.mem_append.1 hg with hg | hg
      · obtain ⟨k, hk, hkg⟩ := hkeeps.overlapped g hg
        exact ⟨k, List.mem_append_left _ hk, hkg⟩
      · rw [List.mem_singleton.1 hg]
        exact ⟨f, List.mem_append_right _ (List.mem_singleton.2 rfl), Found.overlaps_self hf⟩
    · intro k hk
      rcases List.mem_append.1 hk with hk | hk
      · exact hfirst k hk
      · rw [List.mem_singleton.1 hk]
        -- an earlier term of the same place would overlap one that is kept, and so would `f`
        have hnone : seen.find? (·.place == f.place) = none := by
          rw [List.find?_eq_none]
          intro g hg hplace
          obtain ⟨k, hk, hkg⟩ := hkeeps.overlapped g hg
          rw [Found.overlaps_of_place_eq (beq_iff_eq.1 hplace)] at hkg
          exact hoverlaps (List.any_eq_true.2 ⟨k, hk, hkg⟩)
        rw [List.find?_append, hnone, Option.none_or, List.find?_singleton, beq_self_eq_true,
          if_pos rfl]

/-- **All terms are seen.** -/
theorem Keeps.foldl {seen kept : List Found} (hkeeps : Keeps seen kept) {found : List Found}
    (hfound : ∀ f ∈ found, f.start < f.stop) :
    Keeps (seen ++ found) (found.foldl Keywords.keep kept) := by
  induction found generalizing seen kept with
  | nil => rwa [List.append_nil]
  | cons f found ih =>
    obtain ⟨hf, hrest⟩ := List.forall_mem_cons.1 hfound
    have hnext := ih (hkeeps.keep hf) hrest
    rwa [List.append_assoc, List.singleton_append] at hnext

/-- **A place is kept for the first term found there.** -/
theorem find?_place_of_mem_longest {found : List Found} (hfound : ∀ f ∈ found, f.start < f.stop)
    {f : Found} (hf : f ∈ longest found) : found.find? (·.place == f.place) = some f := by
  have hstart : Keeps [] [] := ⟨nofun, nofun⟩
  have hsorted : ∀ f ∈ found.mergeSort Found.before, f.start < f.stop :=
    fun f hf => hfound f (List.mem_mergeSort.1 hf)
  have hkeeps := hstart.foldl hsorted
  rw [List.nil_append] at hkeeps
  have hfirst := hkeeps.first f (List.mem_mergeSort.1 hf)
  rw [← List.head?_filter] at hfirst ⊢
  rwa [filter_mergeSort] at hfirst

/-- What stands for what does not count for what is kept. -/
theorem keep_map_standFor (target : Target) (kept : List Found) (f : Found) :
    keep (kept.map (Found.standFor target)) (f.standFor target) =
      (keep kept f).map (Found.standFor target) := by
  have hany : (kept.map (Found.standFor target)).any (·.overlaps (f.standFor target)) =
      kept.any (·.overlaps f) := by
    rw [List.any_map]
    rfl
  rw [keep, keep, hany]
  split
  · rfl
  · rw [List.map_append, List.map_singleton]

theorem foldl_keep_map_standFor (target : Target) (found kept : List Found) :
    (found.map (Found.standFor target)).foldl keep (kept.map (Found.standFor target)) =
      (found.foldl keep kept).map (Found.standFor target) := by
  induction found generalizing kept with
  | nil => rfl
  | cons f found ih =>
    rw [List.map_cons, List.foldl_cons, List.foldl_cons, keep_map_standFor, ih]

/-- **The places that are kept do not depend on what is found there.** -/
theorem longest_map_standFor (target : Target) (found : List Found) :
    longest (found.map (Found.standFor target)) = (longest found).map (Found.standFor target) := by
  have hbefore : (found.mergeSort Found.before).map (Found.standFor target) =
      (found.map (Found.standFor target)).mergeSort Found.before :=
    List.map_mergeSort fun _ _ _ _ => rfl
  have hfold := foldl_keep_map_standFor target (found.mergeSort Found.before) []
  rw [List.map_nil] at hfold
  rw [longest, longest, ← hbefore, hfold]
  have hstarts (fs : List Found) : (fs.mergeSort Found.startsBefore).map (Found.standFor target) =
      (fs.map (Found.standFor target)).mergeSort Found.startsBefore :=
    List.map_mergeSort fun _ _ _ _ => rfl
  exact (hstarts _).symm

/-- **Nor on the order in which the terms are found.** -/
theorem map_place_longest_of_perm {found found' : List Found} (hperm : found'.Perm found)
    (hfound : ∀ f ∈ found, f.start < f.stop) :
    (longest found').map Found.place = (longest found).map Found.place := by
  let blank := Found.standFor (.metric "")
  have hplaces : ∀ fs : List Found, (fs.map blank).map Found.place = fs.map Found.place := by
    intro fs
    rw [List.map_map]
    rfl
  have hsorted : (found'.map blank).mergeSort Found.before =
      (found.map blank).mergeSort Found.before := by
    have hblank : ∀ f ∈ (found.map blank).mergeSort Found.before,
        f.start < f.stop ∧ f.target = .metric "" := by
      intro f hf
      obtain ⟨g, hg, rfl⟩ := List.mem_map.1 (List.mem_mergeSort.1 hf)
      exact ⟨hfound g hg, rfl⟩
    have hsame : ((found'.map blank).mergeSort Found.before).Perm
        ((found.map blank).mergeSort Found.before) :=
      (List.mergeSort_perm _ _).trans ((hperm.map blank).trans (List.mergeSort_perm _ _).symm)
    refine List.Perm.eq_of_pairwise (fun f g hf hg hfg hgf => ?_)
      (List.pairwise_mergeSort Found.before_trans Found.before_total _)
      (List.pairwise_mergeSort Found.before_trans Found.before_total _) hsame
    obtain ⟨hf, htarget⟩ := hblank f (hsame.mem_iff.1 hf)
    obtain ⟨hg, htarget'⟩ := hblank g hg
    exact Found.ext_place (Found.place_eq_of_before hf hg hfg hgf) (htarget.trans htarget'.symm)
  have hlongest : longest (found'.map blank) = longest (found.map blank) := by
    rw [longest, hsorted, longest]
  rw [← hplaces, ← longest_map_standFor, hlongest, longest_map_standFor, hplaces]

/-! ### What is found, entry by entry -/

/-- A question as terms are looked for in it. -/
def lowered (question : String) : List Char := lowerFrom [] question.toList

/-- The terms of a hint that are kept of a question. -/
def kept (h : Hint) (question : String) : List Found := longest (collect h (lowered question))

/-- **A question is read by what is kept of it.** -/
theorem read_congr {h h' : Hint} {question : String}
    (hkept : kept h' question = kept h question) : read h' question = read h question := by
  have hlongest : longest (collect h' (lowerFrom [] question.toList)) =
      longest (collect h (lowerFrom [] question.toList)) := hkept
  simp only [read, hlongest]

/-- The terms of a metric with what they stand for. -/
def metricTargets (m : HintEntry) : List (String × Target) :=
  (terms m).map fun t => (t, .metric m.name)

/-- The terms of a dimension, and behind them its closed values, with what they stand for. -/
def dimensionTargets (d : HintEntry) : List (String × Target) :=
  (terms d).map (fun t => (t, .dimension d.name)) ++ d.values.map fun v => (v, .value d.name v)

/-- All places of a question where some terms count. -/
def foundAs (question : String) (targets : List (String × Target)) : List Found :=
  targets.flatMap fun (term, target) => places (lowered question) term target

/-- What is found is found entry by entry. -/
theorem collect_eq (h : Hint) (question : String) :
    collect h (lowered question) =
      h.metrics.flatMap (fun m => foundAs question (metricTargets m)) ++
        h.dimensions.flatMap fun d => foundAs question (dimensionTargets d) := by
  have htargets : targets h = h.metrics.flatMap metricTargets ++
      h.dimensions.flatMap dimensionTargets := rfl
  rw [collect, htargets, List.flatMap_append, List.flatMap_assoc, List.flatMap_assoc]
  rfl

/-- The first term of a metric that is found at a place. -/
def metricAt (question : String) (place : Nat × Nat) (m : HintEntry) : Option Found :=
  (foundAs question (metricTargets m)).find? (·.place == place)

/-- The first term or value of a dimension that is found at a place. -/
def dimensionAt (question : String) (place : Nat × Nat) (d : HintEntry) : Option Found :=
  (foundAs question (dimensionTargets d)).find? (·.place == place)

/-- What a place may be kept for: the terms of the metrics found there, one of each metric, or those
of the dimensions if there is none of a metric. -/
def contenders (h : Hint) (question : String) (place : Nat × Nat) : List Found :=
  match h.metrics.filterMap (metricAt question place) with
  | [] => h.dimensions.filterMap (dimensionAt question place)
  | f :: fs => f :: fs

/-- Two entries want a place for different things. -/
def Contested (h : Hint) (question : String) (place : Nat × Nat) : Prop :=
  ∃ f ∈ contenders h question place, ∃ g ∈ contenders h question place, f ≠ g

instance (h : Hint) (question : String) (place : Nat × Nat) :
    Decidable (Contested h question place) :=
  inferInstanceAs (Decidable (∃ f ∈ contenders h question place,
    ∃ g ∈ contenders h question place, f ≠ g))

/-- **The first term found at a place is that of the first contender.** -/
theorem find?_collect (h : Hint) (question : String) (place : Nat × Nat) :
    (collect h (lowered question)).find? (·.place == place) =
      (contenders h question place).head? := by
  rw [collect_eq, List.find?_append, List.find?_flatMap, List.find?_flatMap, ← List.head?_filterMap,
    ← List.head?_filterMap, contenders]
  change ((h.metrics.filterMap (metricAt question place)).head?.or
    (h.dimensions.filterMap (dimensionAt question place)).head?) = _
  cases h.metrics.filterMap (metricAt question place) with
  | nil => rw [List.head?_nil, Option.none_or]
  | cons f fs => rw [List.head?_cons, Option.some_or]

/-- A place of a question is kept for the first term found there. -/
theorem find?_place_of_mem_kept {h : Hint} {question : String} {f : Found}
    (hf : f ∈ kept h question) :
    (collect h (lowered question)).find? (·.place == f.place) = some f :=
  find?_place_of_mem_longest (fun _ hf => start_lt_stop hf) hf

/-- What is kept has been found. -/
theorem mem_collect_of_mem_kept {h : Hint} {question : String} {f : Found}
    (hf : f ∈ kept h question) : f ∈ collect h (lowered question) :=
  List.mem_of_find?_eq_some (find?_place_of_mem_kept hf)

/-- **What is kept is the first contender of its place.** -/
theorem head?_contenders_of_mem_kept {h : Hint} {question : String} {f : Found}
    (hf : f ∈ kept h question) : (contenders h question f.place).head? = some f := by
  rw [← find?_collect]
  exact find?_place_of_mem_kept hf

/-! ### Other orders -/

section Reorders

variable {h h' : Hint} (hreorders : h'.Reorders h)
include hreorders

/-- The same terms are found. -/
theorem collect_perm (question : String) :
    (collect h' (lowered question)).Perm (collect h (lowered question)) := by
  rw [collect_eq, collect_eq]
  exact (hreorders.metrics.flatMap_right _).append (hreorders.dimensions.flatMap_right _)

/-- The same terms contend for a place. -/
theorem contenders_perm (question : String) (place : Nat × Nat) :
    (contenders h' question place).Perm (contenders h question place) := by
  have hmetrics := hreorders.metrics.filterMap (metricAt question place)
  have hdimensions := hreorders.dimensions.filterMap (dimensionAt question place)
  unfold contenders
  cases hfirst : h.metrics.filterMap (metricAt question place) with
  | nil =>
    rw [hfirst] at hmetrics
    rw [hmetrics.eq_nil]
    exact hdimensions
  | cons f fs =>
    cases hfirst' : h'.metrics.filterMap (metricAt question place) with
    | nil =>
      rw [hfirst, hfirst'] at hmetrics
      cases hmetrics.symm.eq_nil
    | cons g gs => rwa [hfirst, hfirst'] at hmetrics

/-- **The same places are kept.** -/
theorem map_place_kept (question : String) :
    (kept h' question).map Found.place = (kept h question).map Found.place :=
  map_place_longest_of_perm (collect_perm hreorders question) fun _ hf => start_lt_stop hf

/-- **Where nothing is contested, the same terms are kept.** -/
theorem kept_of_uncontested {question : String}
    (hfree : ∀ f ∈ kept h question, ¬ Contested h question f.place) :
    kept h' question = kept h question := by
  have hplaces := map_place_kept hreorders question
  have hlength : (kept h' question).length = (kept h question).length := by
    rw [← List.length_map Found.place, hplaces, List.length_map]
  refine List.ext_getElem hlength fun i hi' hi => ?_
  have hplace : (kept h' question)[i].place = (kept h question)[i].place := by
    have := congrArg (·[i]?) hplaces
    simpa [hi, hi'] using this
  have hmem := List.getElem_mem hi
  have hhead := head?_contenders_of_mem_kept hmem
  have hhead' := head?_contenders_of_mem_kept (List.getElem_mem hi')
  rw [hplace] at hhead'
  have hsame := (contenders_perm hreorders question (kept h question)[i].place).mem_iff.1
    (List.mem_of_head? hhead')
  refine Classical.byContradiction fun hne => hfree _ hmem ?_
  exact ⟨_, List.mem_of_head? hhead, _, hsame, Ne.symm hne⟩

end Reorders

/-- **Every contender is the first in some order,** the one that puts its entry in front. -/
theorem exists_reorders_head {h : Hint} {question : String} {place : Nat × Nat} {g : Found}
    (hg : g ∈ contenders h question place) :
    ∃ h', Hint.Reorders h' h ∧ (contenders h' question place).head? = some g := by
  unfold contenders at hg
  cases hfirst : h.metrics.filterMap (metricAt question place) with
  | cons f fs =>
    rw [hfirst] at hg
    change g ∈ f :: fs at hg
    rw [← hfirst] at hg
    obtain ⟨m, hm, hat⟩ := List.mem_filterMap.1 hg
    refine ⟨⟨m :: h.metrics.erase m, h.dimensions⟩,
      ⟨(List.perm_cons_erase hm).symm, List.Perm.refl _⟩, ?_⟩
    rw [contenders, List.filterMap_cons_some hat]
    rfl
  | nil =>
    rw [hfirst] at hg
    obtain ⟨d, hd, hat⟩ := List.mem_filterMap.1 hg
    refine ⟨⟨h.metrics, d :: h.dimensions.erase d⟩,
      ⟨List.Perm.refl _, (List.perm_cons_erase hd).symm⟩, ?_⟩
    rw [contenders, hfirst]
    change (List.filterMap _ (d :: h.dimensions.erase d)).head? = some g
    rw [List.filterMap_cons_some hat]
    rfl

/-- **A contested place shows the order of the hint.** -/
theorem exists_reorders_kept_ne {h : Hint} {question : String} {f : Found}
    (hf : f ∈ kept h question) (hcontested : Contested h question f.place) :
    ∃ h', Hint.Reorders h' h ∧ kept h' question ≠ kept h question := by
  have hhead := head?_contenders_of_mem_kept hf
  obtain ⟨g, hg, hne⟩ : ∃ g ∈ contenders h question f.place, g ≠ f := by
    obtain ⟨g, hg, k, hk, hgk⟩ := hcontested
    by_cases heq : g = f
    · exact ⟨k, hk, fun hkf => hgk (heq.trans hkf.symm)⟩
    · exact ⟨g, hg, heq⟩
  obtain ⟨h', hreorders, hhead'⟩ := exists_reorders_head hg
  refine ⟨h', hreorders, fun hsame => hne ?_⟩
  rw [← hsame] at hf
  rw [head?_contenders_of_mem_kept hf] at hhead'
  exact (Option.some.inj hhead').symm

/-- **Where the order of a hint shows, and where it does not.**  In every order the same places of a
question are kept, and each of them for its first contender; so of two metrics that share a place
the one defined first is kept, and the question is not ambiguous.  Unless a place that is kept is
contested the answer is the same in every order; if one is, some order keeps other terms. -/
theorem kept_reordered {h h' : Hint} (hreorders : h'.Reorders h) (question : String) :
    (kept h' question).map Found.place = (kept h question).map Found.place ∧
      (∀ f ∈ kept h question, (contenders h question f.place).head? = some f) ∧
      ((∀ f ∈ kept h question, ¬ Contested h question f.place) →
        read h' question = read h question) ∧
      ∀ f ∈ kept h question, Contested h question f.place →
        ∃ h'', Hint.Reorders h'' h ∧ kept h'' question ≠ kept h question := by
  refine ⟨map_place_kept hreorders question, fun f hf => head?_contenders_of_mem_kept hf, ?_, ?_⟩
  · intro hfree
    exact read_congr (kept_of_uncontested hreorders hfree)
  · intro f hf hcontested
    exact exists_reorders_kept_ne hf hcontested

/-! ### Two metrics with one synonym -/

namespace Sales

def gross : HintEntry := ⟨"gross", "Gross", "", ["sales"], []⟩

def net : HintEntry := ⟨"net", "Net", "", ["sales"], []⟩

def grossFirst : Hint := ⟨[gross, net], []⟩

def netFirst : Hint := ⟨[net, gross], []⟩

theorem netFirst_reorders : Hint.Reorders netFirst grossFirst :=
  ⟨List.Perm.swap gross net [], List.Perm.refl []⟩

/-- What stands in the two questions: the synonym of both metrics, and the name of one, which is
found once as it is and once as its label. -/
theorem collect_grossFirst :
    collect grossFirst (lowered "sales today") =
        [⟨0, 5, .metric "gross"⟩, ⟨0, 5, .metric "net"⟩] ∧
      collect grossFirst (lowered "gross today") =
        [⟨0, 5, .metric "gross"⟩, ⟨0, 5, .metric "gross"⟩] := by
  decide +kernel

theorem contenders_grossFirst :
    contenders grossFirst "sales today" (0, 5) =
        [⟨0, 5, .metric "gross"⟩, ⟨0, 5, .metric "net"⟩] ∧
      contenders grossFirst "gross today" (0, 5) = [⟨0, 5, .metric "gross"⟩] := by
  decide +kernel

/-- The synonym is kept for the metric defined first, and so for another one in another order. -/
theorem kept_sales : kept grossFirst "sales today" = [⟨0, 5, .metric "gross"⟩] := by
  rw [kept, collect_grossFirst.1]
  cbv

theorem contested_sales : Contested grossFirst "sales today" (0, 5) := by
  rw [Contested, contenders_grossFirst.1]
  decide

theorem uncontested_gross : ∀ f ∈ kept grossFirst "gross today",
    ¬ Contested grossFirst "gross today" f.place := by
  have hkept : kept grossFirst "gross today" = [⟨0, 5, .metric "gross"⟩] := by
    rw [kept, collect_grossFirst.2]
    cbv
  intro f hf
  rw [hkept, List.mem_singleton] at hf
  have hplace : f.place = (0, 5) := by rw [hf, Found.place]
  rw [hplace, Contested, contenders_grossFirst.2]
  decide

end Sales

open Sales in
/-- The synonym of two metrics, and the name of one. -/
theorem kept_reordered_sales :
    (kept netFirst "sales today").map Found.place = [(0, 5)] ∧
      (∃ h, Hint.Reorders h grossFirst ∧
        kept h "sales today" ≠ kept grossFirst "sales today") ∧
      read netFirst "gross today" = read grossFirst "gross today" := by
  obtain ⟨hplaces, -, -, hshown⟩ := kept_reordered netFirst_reorders "sales today"
  obtain ⟨-, -, hsame, -⟩ := kept_reordered netFirst_reorders "gross today"
  rw [kept_sales] at hplaces hshown
  refine ⟨hplaces, ?_, hsame uncontested_gross⟩
  rw [kept_sales]
  exact hshown _ (List.mem_singleton.2 rfl) contested_sales

end Keywords

end SemanticLayer
