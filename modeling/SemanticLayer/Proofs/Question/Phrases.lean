import SemanticLayer.Proofs.Outcome
import SemanticLayer.Question.DatePhrase

/-
# What the phrases of a text say

A text has a range of days when each of its phrases says one (`Reads`) and all
of them say the same (`common_eq_some`); it has none when there is no phrase.
Everything else is ambiguous (`resolve_or_ambiguous`), as long as the calendar
reaches over the periods that have names.
-/

namespace SemanticLayer.DatePhrase

open Text

/-! ### The range of all phrases -/

/-- There is no range to agree on when nothing is said. -/
theorem common_eq_none {text : List Char} {ranges : List (Date × Date)} :
    common text ranges = .ok none ↔ ranges = [] := by
  cases ranges with
  | nil => exact ⟨fun _ => rfl, fun _ => rfl⟩
  | cons r rest =>
    rw [common]
    split <;> exact ⟨nofun, nofun⟩

/-- **A range is agreed on when it is said and nothing else is.** -/
theorem common_eq_some {text : List Char} {ranges : List (Date × Date)} {r : Date × Date} :
    common text ranges = .ok (some r) ↔ r ∈ ranges ∧ ∀ r' ∈ ranges, r' = r := by
  cases ranges with
  | nil => exact ⟨nofun, fun h => absurd h.1 List.not_mem_nil⟩
  | cons first rest =>
    rw [common]
    constructor
    · intro h
      split at h
      · rename_i hall
        cases h
        rw [List.all_eq_true] at hall
        exact ⟨List.mem_cons_self, List.forall_mem_cons.2 ⟨rfl, fun r' hr' =>
          beq_iff_eq.1 (hall r' hr')⟩⟩
      · cases h
    · rintro ⟨-, hall⟩
      obtain ⟨rfl, hrest⟩ := List.forall_mem_cons.1 hall
      rw [if_pos (List.all_eq_true.2 fun r' hr' => beq_iff_eq.2 (hrest r' hr'))]

/-- It counts what is said, and not how often or in what order. -/
theorem common_congr {text text' : List Char} {ranges ranges' : List (Date × Date)}
    {range : Option (Date × Date)} (hsame : ∀ r, r ∈ ranges' ↔ r ∈ ranges)
    (h : common text ranges = .ok range) : common text' ranges' = .ok range := by
  cases range with
  | none =>
    rw [common_eq_none] at h ⊢
    rw [List.eq_nil_iff_forall_not_mem] at h ⊢
    exact fun r hr => h r ((hsame r).1 hr)
  | some r =>
    rw [common_eq_some] at h ⊢
    exact ⟨(hsame r).2 h.1, fun r' hr' => h.2 r' ((hsame r').1 hr')⟩

/-- Where some ranges agree, so do fewer. -/
theorem exists_common_of_subset {text text' : List Char} {ranges ranges' : List (Date × Date)}
    {range : Option (Date × Date)} (hsub : ∀ r ∈ ranges', r ∈ ranges)
    (h : common text ranges = .ok range) : ∃ range', common text' ranges' = .ok range' := by
  cases ranges' with
  | nil => exact ⟨none, rfl⟩
  | cons r rest =>
    cases range with
    | none =>
      rw [common_eq_none.1 h] at hsub
      cases hsub r List.mem_cons_self
    | some agreed =>
      obtain ⟨-, hall⟩ := common_eq_some.1 h
      refine ⟨some r, common_eq_some.2 ⟨List.mem_cons_self, fun r' hr' => ?_⟩⟩
      exact (hall r' (hsub r' hr')).trans (hall r (hsub r List.mem_cons_self)).symm

/-- The text without its dates. -/
def undated (text : List Char) : List Char := withoutMentions explicitDate text

/-- The text without its dates and its numbers of days. -/
def unnumbered (text : List Char) : List Char := withoutMentions lastDays (undated text)

/-- What phrases say: the dates and their range, and the ranges of the other phrases. -/
structure Said where
  dates : List Date
  dated : List (Date × Date)
  numbered : List (Date × Date)
  named : List (Date × Date)

/-- All ranges that are said. -/
def Said.ranges (s : Said) : List (Date × Date) := s.dated ++ s.numbered ++ s.named

/-- Each phrase of a text says a range, and this is what they say. -/
structure Reads (text : List Char) (today : Date) (s : Said) : Prop where
  dates : (mentions explicitDate text).map mentionedDate = s.dates.map .ok
  dated : ofDates text s.dates = .ok s.dated
  numbered : (mentions lastDays (undated text)).map (mentionedDays today) = s.numbered.map .ok
  no_vague : mentions vague (unnumbered text) = []
  named : (periodsOf (lowerFrom [] (unnumbered text))).map (namedPeriod today) = s.named.map .ok

/-- A text says one thing. -/
theorem Reads.unique {text : List Char} {today : Date} {s t : Said} (hs : Reads text today s)
    (ht : Reads text today t) : s = t := by
  have hinj : ∀ {α : Type} {xs ys : List α},
      xs.map (Except.ok (ε := Fault AmbiguousRange)) = ys.map Except.ok → xs = ys :=
    fun h => (List.map_inj_right fun _ _ => Except.ok.inj).1 h
  obtain ⟨dates, dated, numbered, named⟩ := s
  obtain ⟨dates', dated', numbered', named'⟩ := t
  obtain rfl : dates = dates' := hinj (hs.dates.symm.trans ht.dates)
  obtain rfl : dated = dated' := Except.ok.inj (hs.dated.symm.trans ht.dated)
  obtain rfl : numbered = numbered' := hinj (hs.numbered.symm.trans ht.numbered)
  obtain rfl : named = named' := hinj (hs.named.symm.trans ht.named)
  rfl

/-- **A question has the answer that its phrases agree on.** -/
theorem resolve_eq_ok {question : String} {today : Date} {range : Option (Date × Date)} :
    resolve question today = .ok range ↔
      ∃ s, Reads question.toList today s ∧ common question.toList s.ranges = .ok range := by
  unfold resolve
  constructor
  · intro h
    obtain ⟨dates, hdates, h⟩ := bind_eq_ok.1 h
    obtain ⟨dated, hdated, h⟩ := bind_eq_ok.1 h
    obtain ⟨numbered, hnumbered, h⟩ := bind_eq_ok.1 h
    dsimp only at h
    split at h
    · cases h
    · rename_i hvague
      obtain ⟨named, hnamed, h⟩ := bind_eq_ok.1 h
      exact ⟨⟨dates, dated, numbered, named⟩, ⟨mapM_eq_ok.1 hdates, hdated,
        mapM_eq_ok.1 hnumbered, List.head?_eq_none_iff.1
        (Option.eq_none_iff_forall_ne_some.2 hvague), mapM_eq_ok.1 hnamed⟩, h⟩
  · rintro ⟨⟨dates, dated, numbered, named⟩, hreads, h⟩
    refine bind_eq_ok.2 ⟨dates, mapM_eq_ok.2 hreads.dates, bind_eq_ok.2 ⟨dated, hreads.dated,
      bind_eq_ok.2 ⟨numbered, mapM_eq_ok.2 hreads.numbered, ?_⟩⟩⟩
    have hnone : (mentions vague (withoutMentions lastDays
        (withoutMentions explicitDate question.toList))).head? = none :=
      List.head?_eq_none_iff.2 hreads.no_vague
    dsimp only
    rw [hnone]
    exact bind_eq_ok.2 ⟨named, mapM_eq_ok.2 hreads.named, h⟩

/-! ### Failures -/

/-- There is no range, because what is said is ambiguous. -/
def IsAmbiguous {α : Type} (x : Except (Fault AmbiguousRange) α) : Prop :=
  ∃ e, x = .error (.error e)

/-- The failure of a step is one that is reported. -/
def Reported {α : Type} (x : Except (Fault AmbiguousRange) α) : Prop :=
  ∀ e, x = .error e → ∃ ambiguous, e = .error ambiguous

section Reported

variable {α β : Type}

theorem reported_ok (a : α) : Reported (.ok a) := nofun

theorem reported_ambiguous (phrase : List Char) : Reported (ambiguous phrase : Except _ α) := by
  rintro e ⟨⟩
  exact ⟨_, rfl⟩

theorem Reported.bind {x : Except (Fault AmbiguousRange) α}
    {f : α → Except (Fault AmbiguousRange) β} (hx : Reported x) (hf : ∀ a, Reported (f a)) :
    Reported (x >>= f) := by
  cases x with
  | error e =>
    rintro _ ⟨⟩
    exact hx e rfl
  | ok a => exact hf a

theorem Reported.mapM {f : α → Except (Fault AmbiguousRange) β} (hf : ∀ a, Reported (f a))
    (xs : List α) : Reported (xs.mapM f) := by
  induction xs with
  | nil => exact reported_ok []
  | cons x xs ih =>
    rw [List.mapM_cons]
    exact (hf x).bind fun y => ih.bind fun ys => reported_ok (y :: ys)

theorem reported_mentionedDate (m : Mention DateDigits) : Reported (mentionedDate m) := by
  unfold mentionedDate
  split
  · exact reported_ok _
  · exact reported_ambiguous _

theorem reported_ofDates (text : List Char) (dates : List Date) : Reported (ofDates text dates) := by
  unfold ofDates
  split
  · exact reported_ok _
  · exact reported_ok _
  · exact reported_ok _
  · exact reported_ambiguous _

theorem reported_mentionedDays (today : Date) (m : Mention (Option Nat)) :
    Reported (mentionedDays today m) := by
  unfold mentionedDays
  repeat' split
  all_goals first | exact reported_ok _ | exact reported_ambiguous _

/-- What is reported and is no result is an ambiguity. -/
theorem Reported.isAmbiguous {x : Except (Fault AmbiguousRange) α} (h : Reported x)
    (hne : ∀ a, x ≠ .ok a) : IsAmbiguous x := by
  cases x with
  | error e =>
    obtain ⟨ambiguous, rfl⟩ := h e rfl
    exact ⟨ambiguous, rfl⟩
  | ok a => exact absurd rfl (hne a)

/-- An ambiguity is not mended by later steps. -/
theorem IsAmbiguous.bind {x : Except (Fault AmbiguousRange) α} (h : IsAmbiguous x)
    (f : α → Except (Fault AmbiguousRange) β) : IsAmbiguous (x >>= f) := by
  obtain ⟨e, rfl⟩ := h
  exact ⟨e, rfl⟩

end Reported

/-- **A question is ambiguous if it has no answer,** as long as the calendar has every period. -/
theorem reported_resolve {today : Date} (hperiods : ∀ p : Period, p.range? today ≠ none)
    (question : String) : Reported (resolve question today) := by
  have hnamed : ∀ p, Reported (namedPeriod today p) := fun p => by
    obtain ⟨range, hrange⟩ := Option.ne_none_iff_exists'.1 (hperiods p)
    rw [namedPeriod, hrange]
    exact reported_ok range
  have hcommon : ∀ text ranges, Reported (common text ranges) := fun text ranges => by
    unfold common
    repeat' split
    all_goals first | exact reported_ok _ | exact reported_ambiguous _
  refine (Reported.mapM reported_mentionedDate _).bind fun dates =>
    (reported_ofDates _ dates).bind fun dated =>
      (Reported.mapM (reported_mentionedDays today) _).bind fun numbered => ?_
  dsimp only
  split
  · exact (reported_ambiguous _).bind fun _ =>
      (Reported.mapM hnamed _).bind fun named => hcommon _ _
  · exact (Reported.mapM hnamed _).bind fun named => hcommon _ _

end SemanticLayer.DatePhrase
