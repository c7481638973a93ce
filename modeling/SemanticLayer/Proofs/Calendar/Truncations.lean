import Mathlib.Order.Bounds.Defs
import SemanticLayer.Proofs.Calendar.DayRows

/-
# Rows hold the true starts of periods

On which days a period starts, and which days share one, said without the
arithmetic of rows:

| grain | a period starts on | days share a period if |
| --- | --- | --- |
| day | every day | they are the same |
| week | a Monday | they are of the seven days from one Monday on |
| month | the first of a month | they have the same year and month |
| quarter | the first of January, April, July or October | they have the same year and quarter |
| year | the first of January | they have the same year |

The start that a row holds is the greatest such day that is not after its day
(`Date.isGreatest_startOf?`), and it is the same for two days exactly when they
share a period (`Date.startOf?_eq_iff_share`).  The first Monday of the calendar
is the first day with a row, so all of this holds of every row
(`DayRow.truncations_exact`).
-/

namespace SemanticLayer

/-- Day 1, 0001-01-01, is a Monday, and so is every seventh day before and behind it. -/
def Date.IsMonday (d : Date) : Prop := d.number % 7 = 1

namespace Grain

/-- The months of each quarter. -/
def quarters : List (List Nat) := [[1, 2, 3], [4, 5, 6], [7, 8, 9], [10, 11, 12]]

/-- A period starts on the day. -/
def StartsOn : Grain → Date → Prop
  | .day, _ => True
  | .week, d => d.IsMonday
  | .month, d => d.civil.day = 1
  | .quarter, d => d.civil.day = 1 ∧ ∃ q ∈ quarters, q.head? = some d.month
  | .year, d => d.civil.day = 1 ∧ d.month = 1

/-- Two days lie in the same period. -/
def Share : Grain → Date → Date → Prop
  | .day, d, e => d = e
  | .week, d, e => ∃ monday : Date, monday.IsMonday ∧
    (monday.number ≤ d.number ∧ d.number < monday.number + 7) ∧
    (monday.number ≤ e.number ∧ e.number < monday.number + 7)
  | .month, d, e => d.year = e.year ∧ d.month = e.month
  | .quarter, d, e => d.year = e.year ∧ ∃ q ∈ quarters, d.month ∈ q ∧ e.month ∈ q
  | .year, d, e => d.year = e.year

end Grain

namespace Date

variable {d e first other : Date} {g : Grain}

/-! ### Starts that stay as they are -/

/-- The first months of the quarters are those that stand for themselves. -/
theorem quarterMonth_eq_self {month : Nat} (h : 1 ≤ month ∧ month ≤ 12) :
    quarterMonth month = month ↔ ∃ q ∈ Grain.quarters, q.head? = some month := by
  simp only [quarterMonth, Grain.quarters, List.mem_cons, List.not_mem_nil, or_false,
    exists_eq_or_imp, exists_eq_left, List.head?_cons, Option.some.injEq]
  omega

/-- Months with the same first month are of one quarter. -/
theorem quarter_eq_iff {month month' : Nat} (h : 1 ≤ month ∧ month ≤ 12)
    (h' : 1 ≤ month' ∧ month' ≤ 12) :
    (month - 1) / 3 = (month' - 1) / 3 ↔ ∃ q ∈ Grain.quarters, month ∈ q ∧ month' ∈ q := by
  simp only [Grain.quarters, List.mem_cons, List.not_mem_nil, or_false, exists_eq_or_imp,
    exists_eq_left]
  omega

/-- **The days that start a period are those that are cut down to themselves.** -/
theorem startOf?_eq_self_iff : d.startOf? g = some d ↔ g.StartsOn d := by
  have hmonth : 1 ≤ d.month ∧ d.month ≤ 12 := d.month_bounds
  have hcivil : ∀ m, ofCivil? d.year m 1 = some d ↔ d.month = m ∧ d.civil.day = 1 := by
    intro m
    rw [ofCivil?_eq_some]
    unfold year month
    cases d.civil
    simp
  cases g with
  | day => exact iff_of_true rfl trivial
  | week =>
    rw [startOf?, addDays?_eq_some]
    dsimp only [Grain.StartsOn, IsMonday, sinceMonday]
    omega
  | month => exact (hcivil d.month).trans (and_iff_right rfl)
  | quarter =>
    rw [startOf?, hcivil, eq_comm, quarterMonth_eq_self hmonth]
    exact and_comm
  | year => exact (hcivil 1).trans and_comm

/-- **A start is cut down to itself.** -/
theorem startOf?_startOf? (h : d.startOf? g = some first) : first.startOf? g = some first := by
  have hcivil : ∀ {m}, ofCivil? d.year m 1 = some first → first.civil = ⟨d.year, m, 1⟩ :=
    ofCivil?_eq_some.1
  rw [startOf?_eq_self_iff]
  cases g with
  | day => trivial
  | week =>
    have hnumber := addDays?_eq_some.1 h
    dsimp only [Grain.StartsOn, IsMonday, sinceMonday] at *
    omega
  | month => exact congrArg Civil.day (hcivil h)
  | quarter =>
    have hmonth : 1 ≤ d.month ∧ d.month ≤ 12 := d.month_bounds
    have hsame : quarterMonth (quarterMonth d.month) = quarterMonth d.month := by
      unfold quarterMonth
      omega
    have hbounds : 1 ≤ quarterMonth d.month ∧ quarterMonth d.month ≤ 12 := by
      unfold quarterMonth
      omega
    refine ⟨congrArg Civil.day (hcivil h), ?_⟩
    rw [(year_month_of_civil (hcivil h)).2]
    exact (quarterMonth_eq_self hbounds).1 hsame
  | year => exact ⟨congrArg Civil.day (hcivil h), (year_month_of_civil (hcivil h)).2⟩

/-! ### What a start is -/

/-- A start lies in the period that it starts. -/
theorem index_startOf? (h : d.startOf? g = some first) : first.index g = d.index g := by
  have hle : first ≤ d := (le_iff_index h d).2 (Int.le_refl _)
  exact Int.le_antisymm (index_mono hle g) ((le_iff_index h first).1 (Int.le_refl _))

/-- **The start of a period is the greatest day that starts one and is not after the day.** -/
theorem isGreatest_startOf? (h : d.startOf? g = some first) :
    IsGreatest {e | e ≤ d ∧ g.StartsOn e} first := by
  refine ⟨⟨(le_iff_index h d).2 (Int.le_refl _), startOf?_eq_self_iff.1 (startOf?_startOf? h)⟩, ?_⟩
  rintro e ⟨hle, hstarts⟩
  rw [← startOf?_eq_self_iff] at hstarts
  rw [le_iff_index hstarts, index_startOf? h]
  exact index_mono hle g

/-- **Later days do not have earlier starts.** -/
theorem startOf?_mono (hle : d ≤ e) (hd : d.startOf? g = some first)
    (he : e.startOf? g = some other) : first ≤ other := by
  rw [le_iff_index hd, index_startOf? he]
  exact index_mono hle g

/-- Days in the same period of those that follow one another share it. -/
theorem index_eq_iff_share (hd : d.startOf? g = some first) :
    d.index g = e.index g ↔ g.Share d e := by
  have hmonth : 1 ≤ d.month ∧ d.month ≤ 12 := d.month_bounds
  have hmonth' : 1 ≤ e.month ∧ e.month ≤ 12 := e.month_bounds
  cases g with
  | day => exact ⟨ext, congrArg number⟩
  | week =>
    have hmonday := startOf?_eq_self_iff.1 (startOf?_startOf? hd)
    have hnumber := addDays?_eq_some.1 hd
    dsimp only [index, Grain.StartsOn, Grain.Share, IsMonday, sinceMonday] at *
    constructor
    · intro h
      exact ⟨first, hmonday, by omega, by omega⟩
    · rintro ⟨monday, hmonday, hd, he⟩
      omega
  | month =>
    dsimp only [index, Grain.Share]
    omega
  | quarter =>
    dsimp only [index, Grain.Share]
    rw [← quarter_eq_iff hmonth hmonth']
    omega
  | year => exact Iff.rfl

/-- **Two days have the same start exactly when they share a period.** -/
theorem startOf?_eq_iff_share (hd : d.startOf? g = some first) (he : e.startOf? g = some other) :
    first = other ↔ g.Share d e := by
  rw [← index_eq_iff_share hd, ← index_startOf? hd, ← index_startOf? he]
  refine ⟨fun h => h ▸ rfl, fun h => ext (Int.le_antisymm ?_ ?_)⟩
  · exact (le_iff_index hd other).2 (Int.le_of_eq ((index_startOf? hd).symm.trans h))
  · exact (le_iff_index he first).2 (Int.le_of_eq ((index_startOf? he).symm.trans h.symm))

/-- **The first Monday of the calendar** is one, and no Monday is before it. -/
theorem isLeast_firstMonday : IsLeast {d | IsMonday d} firstMonday := by
  refine ⟨show firstMonday.number % 7 = 1 by decide, fun d hd => ?_⟩
  have hin := d.inCalendar.1
  change d.number % 7 = 1 at hd
  change Calendar.firstDay + 4 ≤ d.number
  simp only [Calendar.firstDay] at *
  omega

end Date

namespace DayRow

/-- **Rows hold the true starts of periods.**  Every day from the first Monday of the calendar on
has a row, and for each grain the row holds

* the greatest day not after its own that starts a period, which is cut down to itself, also in its
  own row if it has one;
* no earlier day than the row of an earlier day does, and the same day exactly when the two days
  share the period. -/
theorem truncations_exact :
    IsLeast {d | Date.IsMonday d} Date.firstMonday ∧
    (∀ d, Date.firstMonday ≤ d → ∃ row, ofDay? d = some row ∧ ∀ g,
      IsGreatest {e | e ≤ d ∧ g.StartsOn e} (row.get g) ∧
      (row.get g).startOf? g = some (row.get g) ∧
      (Date.firstMonday ≤ row.get g → ∃ own, ofDay? (row.get g) = some own ∧
        own.get g = row.get g)) ∧
    ∀ d e row other, ofDay? d = some row → ofDay? e = some other → ∀ g,
      (d ≤ e → row.get g ≤ other.get g) ∧ (row.get g = other.get g ↔ g.Share d e) := by
  refine ⟨Date.isLeast_firstMonday, fun d hmonday => ?_, fun d e row other hd he g => ?_⟩
  · obtain ⟨row, hrow⟩ := exists_ofDay?_iff.2 hmonday
    refine ⟨row, hrow, fun g => ?_⟩
    have hfirst := (startOf?_of_ofDay? hrow).2 g
    have hself := Date.startOf?_startOf? hfirst
    refine ⟨Date.isGreatest_startOf? hfirst, hself, fun hearly => ?_⟩
    obtain ⟨own, hown⟩ := exists_ofDay?_iff.2 hearly
    exact ⟨own, hown, Option.some.inj (((startOf?_of_ofDay? hown).2 g).symm.trans hself)⟩
  · have hfirst := (startOf?_of_ofDay? hd).2 g
    have hother := (startOf?_of_ofDay? he).2 g
    exact ⟨fun hle => Date.startOf?_mono hle hfirst hother,
      Date.startOf?_eq_iff_share hfirst hother⟩

end DayRow

/-! ### The end of 2020 -/

namespace YearEnd

/-- 28 December 2020. -/
def monday : Date := ⟨737787, by decide⟩

/-- 3 January 2021, the Sunday of the same week. -/
def sunday : Date := ⟨737793, by decide⟩

end YearEnd

namespace DayRow

open YearEnd in
/-- The week of a Sunday starts in the year before, and this year starts behind it. -/
theorem truncations_exact_sunday :
    ∃ row other, ofDay? monday = some row ∧ ofDay? sunday = some other ∧
      IsGreatest {e | e ≤ sunday ∧ Grain.week.StartsOn e} other.week ∧ other.week = monday ∧
      Grain.week.Share monday sunday ∧ row.year ≤ other.year ∧
      ¬ Grain.year.Share monday sunday := by
  obtain ⟨-, hrows, hpairs⟩ := truncations_exact
  obtain ⟨row, hrow, -⟩ := hrows monday (by decide)
  obtain ⟨other, hother, hstarts⟩ := hrows sunday (by decide)
  have hweek : other.week = monday :=
    Option.some.inj (((startOf?_of_ofDay? hother).2 .week).symm.trans (by decide))
  have hsame : row.week = monday :=
    Option.some.inj (((startOf?_of_ofDay? hrow).2 .week).symm.trans (by decide))
  have hyears : ¬ monday.year = sunday.year := by decide
  have hpair := hpairs monday sunday row other hrow hother
  exact ⟨row, other, hrow, hother, (hstarts .week).1, hweek,
    (hpair .week).2.1 (hsame.trans hweek.symm), (hpair .year).1 (by decide), hyears⟩

end DayRow

end SemanticLayer
