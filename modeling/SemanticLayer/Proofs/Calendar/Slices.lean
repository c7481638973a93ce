import SemanticLayer.Proofs.Calendar.DayRows

/-
# Every answer of a spine

A spine answers two dates in one of these ways, whichever is the first that
applies:

| the dates | the answer |
| --- | --- |
| the start is after the end | the range is inverted |
| the start is not in the horizon | the start is out of the horizon |
| the end is not in the horizon | the end is out of the horizon |
| the end is the last day of the calendar | it breaks off |
| all others | the rows of the days from the start to the end, in this order |

The rows of a range that lies within another are a contiguous part of the
other's rows (`Spine.between_within`).
-/

namespace SemanticLayer

/-- The rows of `n` days that follow one another, from `d` on. -/
def DayRow.following? (d : Date) (n : Nat) : List (Option DayRow) :=
  (List.range n).map fun (i : Nat) => d.addDays? i >>= DayRow.ofDay?

/-- How many days a range has. -/
def Date.daysUpTo (a b : Date) : Nat := (b.number - a.number + 1).toNat

namespace Spine

variable {s : Spine} {start stop a b a' b' : Date} {rows : List DayRow}

/-- **A range is answered with rows** when it passes its checks and the rows reach to its end. -/
theorem between_eq_ok : s.between a b = .ok rows ↔
    s.checkRange a b = .ok () ∧ s.offset b < s.length ∧
      (s.rows.drop (s.offset a)).take (s.offset b + 1 - s.offset a) = rows := by
  unfold between
  cases hrange : s.checkRange a b with
  | error e => exact ⟨nofun, nofun⟩
  | ok u =>
    by_cases hend : s.offset b < s.length
    · simp [hend]
    · simp [hend]

/-- **The rows of a range within another** are the part of the other's rows that starts as many days
behind their start. -/
theorem between_within (h : s.between a b = .ok rows) (ha : a ≤ a') (hordered : a' ≤ b')
    (hb : b' ≤ b) :
    s.between a' b' = .ok ((rows.drop (a'.number - a.number).toNat).take (a'.daysUpTo b')) := by
  obtain ⟨hrange, hend, rfl⟩ := between_eq_ok.1 h
  obtain ⟨-, hcovers, hcovers'⟩ := checkRange_eq_ok.1 hrange
  obtain ⟨hstart, -⟩ := contains_iff.1 hcovers
  obtain ⟨-, hstop⟩ := contains_iff.1 hcovers'
  have hcontains : ∀ d, a ≤ d → d ≤ b → s.contains d = true := fun d had hdb =>
    contains_iff.2 ⟨Int.le_trans hstart had, Int.le_trans hdb hstop⟩
  have hrange' : s.checkRange a' b' = .ok () :=
    checkRange_eq_ok.2 ⟨hordered, hcontains a' ha (Int.le_trans hordered hb),
      hcontains b' (Int.le_trans ha hordered) hb⟩
  have hnumbers : s.start.number ≤ a.number ∧ a.number ≤ a'.number ∧ a'.number ≤ b'.number ∧
      b'.number ≤ b.number := ⟨hstart, ha, hordered, hb⟩
  unfold offset at hend ⊢
  refine between_eq_ok.2 ⟨hrange', by unfold offset; omega, ?_⟩
  rw [List.drop_take, List.take_take, List.drop_drop]
  unfold offset Date.daysUpTo
  congr 2 <;> omega

/-- A range with rows ends before the calendar does. -/
theorem lt_last_of_between (h : ofHorizon start stop = .ok s) (hrows : s.between a b = .ok rows) :
    b < Date.last := by
  by_contra hlast
  rw [between_eq_broken h (between_eq_ok.1 hrows).1 hlast] at hrows
  cases hrows

/-- **Rows are answered in the order of their days,** each day once and none left out. -/
theorem following?_of_between (h : ofHorizon start stop = .ok s)
    (hrows : s.between a b = .ok rows) :
    DayRow.following? a (a.daysUpTo b) = rows.map some := by
  obtain ⟨hlength, hdays⟩ :=
    ofDay?_between h (between_eq_ok.1 hrows).1 (lt_last_of_between h hrows) hrows
  refine List.ext_getElem ?_ fun i hi hi' => ?_
  · rw [DayRow.following?, List.length_map, List.length_range, List.length_map, Date.daysUpTo]
    omega
  · obtain ⟨d, hd, hrow⟩ := hdays i (by simpa using hi')
    have hday : a.addDays? i = some d := Date.addDays?_eq_some.2 hd
    simp [DayRow.following?, hday, hrow]

/-! ### Ranges that are refused -/

theorem checkRange_of_lt (h : b < a) : s.checkRange a b = .error (.inverted a b) := by
  unfold checkRange
  rw [if_pos h]
  rfl

/-- Of an ordered range, the start is looked at before the end. -/
theorem checkRange_of_le (h : a ≤ b) : s.checkRange a b = (s.check a >>= fun _ => s.check b) := by
  have hordered : ¬ b < a := Int.not_lt.2 h
  unfold checkRange
  rw [if_neg hordered]

theorem check_of_outside {d : Date} (h : ¬ (s.start ≤ d ∧ d ≤ s.stop)) :
    s.check d = .error (.outOfHorizon d s.start s.stop) :=
  if_neg fun hcontains => h (contains_iff.1 hcontains)

theorem check_of_inside {d : Date} (h : s.start ≤ d ∧ d ≤ s.stop) : s.check d = .ok () :=
  check_eq_ok.2 (contains_iff.2 h)

theorem between_of_refused {e : RangeError} (h : s.checkRange a b = .error e) :
    s.between a b = .error (.error e) := by
  rw [between, h]

/-! ### All answers -/

/-- **Every answer of a spine.**  A range is refused if it is inverted, else if it starts outside of
the horizon, else if it ends there, and each time the error names what is wrong.  Any other range
has rows exactly if it ends before the calendar does.  Rows that are answered are those of the days
from the start to the end, one after the other, and those of any range within are the corresponding
part of them. -/
theorem between_exact (h : ofHorizon start stop = .ok s) (a b : Date) :
    (b < a → s.between a b = .error (.error (.inverted a b))) ∧
    (a ≤ b → ¬ (start ≤ a ∧ a ≤ stop) →
      s.between a b = .error (.error (.outOfHorizon a start stop))) ∧
    (a ≤ b → start ≤ a ∧ a ≤ stop → ¬ (start ≤ b ∧ b ≤ stop) →
      s.between a b = .error (.error (.outOfHorizon b start stop))) ∧
    (a ≤ b → start ≤ a ∧ a ≤ stop → start ≤ b ∧ b ≤ stop →
      ((∃ rows, s.between a b = .ok rows) ↔ b < Date.last)) ∧
    ∀ rows, s.between a b = .ok rows →
      DayRow.following? a (a.daysUpTo b) = rows.map some ∧
      ∀ a' b', a ≤ a' → a' ≤ b' → b' ≤ b → s.between a' b' =
        .ok ((rows.drop (a'.number - a.number).toNat).take (a'.daysUpTo b')) := by
  obtain ⟨rfl, rfl, -⟩ := length_ofHorizon h
  refine ⟨fun hlt => between_of_refused (checkRange_of_lt hlt),
    fun hle ha => between_of_refused ?_, fun hle ha hb => between_of_refused ?_,
    fun hle ha hb => ⟨?_, fun hlast => ?_⟩, fun rows hrows => ⟨following?_of_between h hrows,
      fun a' b' ha hle hb => between_within hrows ha hle hb⟩⟩
  · rw [checkRange_of_le hle, check_of_outside ha]
    rfl
  · rw [checkRange_of_le hle, check_of_inside ha, check_of_outside hb]
    rfl
  · exact fun ⟨_, hrows⟩ => lt_last_of_between h hrows
  · have hrange := checkRange_eq_ok.2 ⟨hle, contains_iff.2 ha, contains_iff.2 hb⟩
    obtain ⟨rows, hrows, -⟩ := exists_between h hrange hlast
    exact ⟨rows, hrows⟩

end Spine

/-! ### The week of a leap day -/

namespace LeapWeek

/-- 26 February 2024. -/
def monday : Date := ⟨738942, by decide⟩

/-- 29 February 2024. -/
def leapDay : Date := ⟨738945, by decide⟩

/-- 1 March 2024. -/
def friday : Date := ⟨738946, by decide⟩

/-- 3 March 2024. -/
def sunday : Date := ⟨738948, by decide⟩

end LeapWeek

namespace Spine

open LeapWeek in
/-- The leap day and the first of March are the fourth and the fifth of the seven days. -/
theorem between_exact_leapWeek :
    ∃ s rows, ofHorizon monday sunday = .ok s ∧ s.between monday sunday = .ok rows ∧
      DayRow.following? monday 7 = rows.map some ∧
      s.between leapDay friday = .ok ((rows.drop 3).take 2) ∧
      s.between sunday monday = .error (.error (.inverted sunday monday)) ∧
      s.between Date.first monday = .error (.error (.outOfHorizon Date.first monday sunday)) ∧
      s.between monday Date.last = .error (.error (.outOfHorizon Date.last monday sunday)) := by
  have hspine : ∃ s, ofHorizon monday sunday = .ok s := exists_ofHorizon (by decide) (by decide)
  obtain ⟨s, hs⟩ := hspine
  obtain ⟨-, -, -, hsome, hrows⟩ := between_exact hs monday sunday
  obtain ⟨rows, hbetween⟩ := (hsome (by decide) (by decide) (by decide)).2 (by decide)
  obtain ⟨hdays, hwithin⟩ := hrows rows hbetween
  refine ⟨s, rows, hs, hbetween, hdays, ?_, ?_, ?_, ?_⟩
  · exact hwithin leapDay friday (by decide) (by decide) (by decide)
  · exact (between_exact hs sunday monday).1 (by decide)
  · exact (between_exact hs Date.first monday).2.1 (by decide) (by decide)
  · exact (between_exact hs monday Date.last).2.2.1 (by decide) (by decide) (by decide)

end Spine

end SemanticLayer
