import SemanticLayer.Calendar.Grain
import SemanticLayer.Proofs.Calendar.Civil

/-
# Which days have a row

The month, the quarter and the year of a day start within the calendar, because
the calendar itself starts with a year.  It starts on a Thursday, so the weeks
of its first four days do not: a day has a row exactly from the first Monday on
(`DayRow.exists_ofDay?_iff`).
-/

namespace SemanticLayer

namespace Calendar

/-- Years follow one another. -/
theorem dayBeforeYear_mono {a b : Int} (h : a ≤ b) : dayBeforeYear a ≤ dayBeforeYear b := by
  unfold dayBeforeYear
  omega

/-- The calendar starts with the first day of a year. -/
theorem firstDay_eq : firstDay = dayBeforeYear (-262143) + 1 := by decide

/-- Every month has a day. -/
theorem monthLength_pos (year : Int) {month : Nat} (h : 1 ≤ month ∧ month ≤ 12) :
    1 ≤ monthLength year month := by
  have hall : ∀ leap, ∀ m < 12, 1 ≤ (monthLengths leap).getD m 0 := by decide
  unfold monthLength
  rw [if_neg (by omega)]
  exact hall _ _ (by omega)

/-- Later months have no fewer days before them. -/
theorem daysBeforeMonth_mono (year : Int) {a b : Nat} (hab : a ≤ b) (hb : b ≤ 12) :
    daysBeforeMonth year a ≤ daysBeforeMonth year b := by
  have hall : ∀ leap, ∀ n < 12, ∀ m ≤ n, ((monthLengths leap).take m).foldl (· + ·) 0 ≤
      ((monthLengths leap).take n).foldl (· + ·) 0 := by decide
  exact hall _ (b - 1) (by omega) (a - 1) (by omega)

end Calendar

namespace Date

open Calendar

/-- **The first Monday of the calendar.** -/
def firstMonday : Date := ⟨firstDay + 4, by decide⟩

/-- **A month of a day's year that is not after the day starts in the calendar.** -/
theorem exists_ofCivil?_first {d : Date} {month : Nat} (h : 1 ≤ month ∧ month ≤ d.month) :
    ∃ e, ofCivil? d.year month 1 = some e := by
  have hmonth : d.month ≤ 12 := d.month_bounds.2
  have hday : 1 ≤ d.civil.day := d.day_bounds.1
  have hyear : -262143 ≤ d.year := d.year_bounds.1
  have hnumber : dayBeforeYear d.year + daysBeforeMonth d.year d.month + d.civil.day = d.number :=
    (civilOf_spec d.number).2.2
  have hbefore := dayBeforeYear_mono hyear
  have hmonths := daysBeforeMonth_mono d.year h.2 hmonth
  have hlength := monthLength_pos d.year (show 1 ≤ month ∧ month ≤ 12 by omega)
  have hfirst := firstDay_eq
  have hlast := d.inCalendar.2
  have hin : firstDay ≤ dayNumber ⟨d.year, month, 1⟩ ∧ dayNumber ⟨d.year, month, 1⟩ ≤ lastDay := by
    unfold dayNumber
    dsimp only
    constructor <;> omega
  unfold ofCivil?
  rw [if_pos ⟨h.1, by omega, Nat.le_refl 1, hlength⟩]
  exact ⟨_, dif_pos hin⟩

/-- **The week of a day starts in the calendar** exactly from the first Monday on. -/
theorem exists_addDays?_week {d : Date} :
    (∃ e, d.addDays? (-d.sinceMonday) = some e) ↔ firstMonday ≤ d := by
  obtain ⟨hfirst, hlast⟩ := d.inCalendar
  have hmonday : firstMonday ≤ d ↔ firstDay + 4 ≤ d.number := Iff.rfl
  have hin : firstDay ≤ d.number + -d.sinceMonday ∧ d.number + -d.sinceMonday ≤ lastDay ↔
      firstDay + 4 ≤ d.number := by
    unfold sinceMonday
    simp only [firstDay, lastDay] at *
    omega
  rw [hmonday, ← hin]
  unfold addDays? ofNumber?
  constructor
  · rintro ⟨e, he⟩
    by_contra hout
    rw [dif_neg hout] at he
    cases he
  · intro h
    exact ⟨_, dif_pos h⟩

end Date

/-- **A day has a row** exactly from the first Monday of the calendar on. -/
theorem DayRow.exists_ofDay?_iff {d : Date} :
    (∃ row, ofDay? d = some row) ↔ Date.firstMonday ≤ d := by
  have hmonth : 1 ≤ d.month := d.month_bounds.1
  obtain ⟨month, hm⟩ := Date.exists_ofCivil?_first ⟨hmonth, Nat.le_refl d.month⟩
  have hquarter : 1 ≤ Date.quarterMonth d.month ∧ Date.quarterMonth d.month ≤ d.month := by
    unfold Date.quarterMonth
    omega
  obtain ⟨quarter, hq⟩ := Date.exists_ofCivil?_first hquarter
  obtain ⟨year, hy⟩ := Date.exists_ofCivil?_first ⟨Nat.le_refl 1, hmonth⟩
  rw [← Date.exists_addDays?_week]
  unfold ofDay?
  simp only [Date.startOf?, hm, hq, hy]
  cases d.addDays? (-d.sinceMonday) with
  | none =>
    constructor
    · rintro ⟨row, ⟨⟩⟩
    · rintro ⟨e, ⟨⟩⟩
  | some week =>
    constructor
    · exact fun _ => ⟨week, rfl⟩
    · exact fun _ => ⟨_, rfl⟩

end SemanticLayer
