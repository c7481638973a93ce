import SemanticLayer.Calendar.Date
import Mathlib.Tactic.Common

/-
# Day numbers and civil dates

`Calendar.civilOf` and `Calendar.dayNumber` are inverse to each other as far as
a day number goes: the year is the one whose days hold it
(`Calendar.yearOf_bounds`), and the months of that year are taken off until
the day lies within one (`Calendar.splitMonths_spec`).
-/

namespace SemanticLayer
namespace Calendar

/-- Leap years by their divisors. -/
theorem isLeap_iff (year : Int) :
    isLeap year = true ↔ year % 4 = 0 ∧ (year % 100 ≠ 0 ∨ year % 400 = 0) := by
  simp [isLeap]

/-- A leap year has one day more than any other. -/
theorem dayBeforeYear_succ (year : Int) :
    dayBeforeYear (year + 1) = dayBeforeYear year + 365 + if isLeap year then 1 else 0 := by
  unfold dayBeforeYear
  split <;> rename_i h <;> rw [isLeap_iff] at h <;> omega

/-- The days before a year, by its place in the cycles of 400, 100 and 4 years. -/
theorem dayBeforeYear_cycles {q c f r : Int} (hc : 0 ≤ c ∧ c ≤ 3) (hf : 0 ≤ f ∧ f ≤ 24)
    (hr : 0 ≤ r ∧ r ≤ 3) :
    dayBeforeYear (q * 400 + c * 100 + f * 4 + r + 1) =
      146097 * q + 36524 * c + 1461 * f + 365 * r := by
  have h4 : (q * 400 + c * 100 + f * 4 + r + 1 - 1) / 4 = q * 100 + c * 25 + f := by omega
  have h100 : (q * 400 + c * 100 + f * 4 + r + 1 - 1) / 100 = q * 4 + c := by omega
  have h400 : (q * 400 + c * 100 + f * 4 + r + 1 - 1) / 400 = q := by omega
  unfold dayBeforeYear
  rw [h4, h100, h400]
  omega

/-- The last year of a cycle of four is a leap year, save in three of four centuries. -/
theorem isLeap_cycles {q c f r : Int} (hc : 0 ≤ c ∧ c ≤ 3) (hf : 0 ≤ f ∧ f ≤ 24)
    (hr : 0 ≤ r ∧ r ≤ 3) :
    isLeap (q * 400 + c * 100 + f * 4 + r + 1) = true ↔ r = 3 ∧ (f ≠ 24 ∨ c = 3) := by
  rw [isLeap_iff]
  omega

/-- **The year of a day holds it.** -/
theorem yearOf_bounds (n : Int) :
    dayBeforeYear (yearOf n) < n ∧ n ≤ dayBeforeYear (yearOf n + 1) := by
  obtain ⟨inCycle, hin⟩ : ∃ x, x = (n - 1) % 146097 := ⟨_, rfl⟩
  obtain ⟨c, hc⟩ : ∃ x, x = min (inCycle / 36524) 3 := ⟨_, rfl⟩
  obtain ⟨f, hf⟩ : ∃ x, x = (inCycle - c * 36524) / 1461 := ⟨_, rfl⟩
  obtain ⟨r, hr⟩ : ∃ x, x = min ((inCycle - c * 36524 - f * 1461) / 365) 3 := ⟨_, rfl⟩
  have hyear : yearOf n = (n - 1) / 146097 * 400 + c * 100 + f * 4 + r + 1 := by
    unfold yearOf
    rw [hr, hf, hc, hin]
  have hc' : 0 ≤ c ∧ c ≤ 3 := by omega
  have hf' : 0 ≤ f ∧ f ≤ 24 := by omega
  have hr' : 0 ≤ r ∧ r ≤ 3 := by omega
  have hleap := isLeap_cycles (q := (n - 1) / 146097) hc' hf' hr'
  rw [dayBeforeYear_succ (yearOf n), hyear, dayBeforeYear_cycles hc' hf' hr']
  constructor
  · omega
  · split <;> rename_i h <;> rw [hleap] at h <;> omega

/-- The days of the months of a year are the days of the year. -/
theorem sum_monthLengths (leap : Bool) :
    (monthLengths leap).foldl (· + ·) 0 = 365 + if leap then 1 else 0 := by
  cases leap <;> rfl

theorem length_monthLengths (leap : Bool) : (monthLengths leap).length = 12 := by
  cases leap <;> rfl

/-- A sum does not depend on where it starts. -/
theorem foldl_add (ls : List Nat) (a : Nat) :
    ls.foldl (· + ·) a = a + ls.foldl (· + ·) 0 := by
  induction ls generalizing a with
  | nil => rfl
  | cons l rest ih =>
    simp only [List.foldl_cons]
    rw [ih (a + l), ih (0 + l)]
    omega

/-- **A day of a run of months lies in one of them,** behind the days of the months before it. -/
theorem splitMonths_spec (first : Nat) {k : Nat} (ls : List Nat) (hk : 1 ≤ k)
    (hle : k ≤ ls.foldl (· + ·) 0) :
    ∃ i, (splitMonths first k ls).1 = first + i ∧ i < ls.length ∧
      1 ≤ (splitMonths first k ls).2 ∧ (splitMonths first k ls).2 ≤ ls.getD i 0 ∧
      (ls.take i).foldl (· + ·) 0 + (splitMonths first k ls).2 = k := by
  fun_induction splitMonths first k ls with
  | case1 => simp only [List.foldl_nil] at hle; omega
  | case2 first k l =>
    simp only [List.foldl_cons, List.foldl_nil] at hle
    exact ⟨0, rfl, by simp, hk, by simpa using hle, by simp⟩
  | case3 first k l rest _ h => exact ⟨0, rfl, by simp, hk, by simpa using h, by simp⟩
  | case4 first k l rest _ h ih =>
    rw [List.foldl_cons, foldl_add] at hle
    obtain ⟨i, hm, hi, hd, hd', hsum⟩ := ih (by omega) (by omega)
    refine ⟨i + 1, by omega, by simpa using hi, hd, by simpa using hd', ?_⟩
    rw [List.take_succ_cons, List.foldl_cons, foldl_add]
    omega

/-- **Months and days are as the calendar has them, and count up to the day number.** -/
theorem civilOf_spec (n : Int) :
    (1 ≤ (civilOf n).month ∧ (civilOf n).month ≤ 12) ∧
      (1 ≤ (civilOf n).day ∧ (civilOf n).day ≤ monthLength (civilOf n).year (civilOf n).month) ∧
      dayNumber (civilOf n) = n := by
  obtain ⟨hlo, hhi⟩ := yearOf_bounds n
  have hsucc := dayBeforeYear_succ (yearOf n)
  have hsum := sum_monthLengths (isLeap (yearOf n))
  obtain ⟨i, hm, hi, hd, hd', hk⟩ := splitMonths_spec 1
    (k := (n - dayBeforeYear (yearOf n)).toNat) (monthLengths (isLeap (yearOf n)))
    (by omega) (by rw [hsum]; split at hsucc <;> simp_all <;> omega)
  rw [length_monthLengths] at hi
  have hmonth : (civilOf n).month = 1 + i := hm
  have hyear : (civilOf n).year = yearOf n := rfl
  refine ⟨by omega, ⟨hd, ?_⟩, ?_⟩
  · simp only [monthLength, hmonth, hyear, Nat.add_sub_cancel_left]
    rw [if_neg (by omega)]
    exact hd'
  · have hdays : daysBeforeMonth (yearOf n) (1 + i) + (civilOf n).day =
        (n - dayBeforeYear (yearOf n)).toNat := by
      rw [← hk, daysBeforeMonth, Nat.add_sub_cancel_left]
      rfl
    simp only [dayNumber, hmonth, hyear]
    omega

end Calendar

namespace Date

open Calendar

theorem month_bounds (d : Date) : 1 ≤ d.civil.month ∧ d.civil.month ≤ 12 :=
  (civilOf_spec d.number).1

theorem day_bounds (d : Date) :
    1 ≤ d.civil.day ∧ d.civil.day ≤ monthLength d.civil.year d.civil.month :=
  (civilOf_spec d.number).2.1

/-- **A date is found again by its year, month and day.** -/
theorem ofCivil?_civil (d : Date) : ofCivil? d.civil.year d.civil.month d.civil.day = some d := by
  have hm := d.month_bounds
  have hd := d.day_bounds
  have hn : dayNumber ⟨d.civil.year, d.civil.month, d.civil.day⟩ = d.number :=
    (civilOf_spec d.number).2.2
  unfold ofCivil?
  rw [if_pos ⟨hm.1, hm.2, hd⟩, hn]
  exact dif_pos d.inCalendar

/-- The years of the calendar. -/
theorem year_bounds (d : Date) : -262143 ≤ d.civil.year ∧ d.civil.year ≤ 262142 := by
  obtain ⟨hfirst, hlast⟩ := d.inCalendar
  obtain ⟨hlo, hhi⟩ : dayBeforeYear d.civil.year < d.number ∧
      d.number ≤ dayBeforeYear (d.civil.year + 1) := yearOf_bounds d.number
  simp only [firstDay, lastDay] at hfirst hlast
  unfold dayBeforeYear at hlo hhi
  constructor
  · by_contra hy
    rcases Int.lt_or_eq_of_le (show d.civil.year ≤ -262144 by omega) with h | h
    · omega
    · rw [h] at hhi
      omega
  · by_contra hy
    rcases Int.lt_or_eq_of_le (show 262143 ≤ d.civil.year by omega) with h | h
    · omega
    · rw [← h] at hlo
      omega

/-- No month has more than 31 days. -/
theorem day_le (d : Date) : d.civil.day ≤ 31 := by
  refine Nat.le_trans d.day_bounds.2 ?_
  have hle : ∀ leap, ∀ l ∈ monthLengths leap, l ≤ 31 := by decide
  have hget : ∀ leap i, (monthLengths leap).getD i 0 ≤ 31 := by
    intro leap i
    rw [List.getD_eq_getElem?_getD]
    cases h : (monthLengths leap)[i]? with
    | none => exact Nat.zero_le 31
    | some l => exact hle leap l (List.mem_of_getElem? h)
  unfold monthLength
  split
  · exact Nat.zero_le _
  · exact hget _ _

end Date

end SemanticLayer
