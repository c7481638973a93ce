/-
# Dates of the proleptic Gregorian calendar

A date is its day number, counted so that 0001-01-01 is day 1, together with the
proof that it lies in the calendar:

| end of the calendar | date | day number |
| --- | --- | ---: |
| first | -262143-01-01 | -95746129 |
| last | +262142-12-31 | 95745399 |

`Date.civil` gives year, month and day of month; `Date.ofCivil?` is its partial
inverse.  The calendar has a year 0, and 0001-01-01 is a Monday.
-/

namespace SemanticLayer

/-- Year, month (1 to 12) and day of the month (from 1). -/
structure Civil where
  year : Int
  month : Nat
  day : Nat
deriving DecidableEq, Repr

namespace Calendar

/-- Leap years are those divisible by 4, save centuries not divisible by 400. -/
def isLeap (year : Int) : Bool :=
  year % 4 == 0 && (year % 100 != 0 || year % 400 == 0)

/-- Days of the months of a year, January first. -/
def monthLengths (leap : Bool) : List Nat :=
  [31, if leap then 29 else 28, 31, 30, 31, 30, 31, 31, 30, 31, 30, 31]

/-- Number of days in month `month` of `year`; zero for a month that does not exist. -/
def monthLength (year : Int) (month : Nat) : Nat :=
  if month = 0 then 0 else (monthLengths (isLeap year)).getD (month - 1) 0

/-- Number of the last day before 1 January of `year`. -/
def dayBeforeYear (year : Int) : Int :=
  365 * (year - 1) + (year - 1) / 4 - (year - 1) / 100 + (year - 1) / 400

/-- Number of days of `year` before the first of `month`. -/
def daysBeforeMonth (year : Int) (month : Nat) : Nat :=
  ((monthLengths (isLeap year)).take (month - 1)).foldl (· + ·) 0

/-- Day number of a civil date, meaningful for months 1 to 12. -/
def dayNumber (c : Civil) : Int :=
  dayBeforeYear c.year + daysBeforeMonth c.year c.month + c.day

/-- The year that holds day number `n`: whole cycles of 400, 100, 4 and 1 years are taken off. -/
def yearOf (n : Int) : Int :=
  let inCycle := (n - 1) % 146097
  let century := min (inCycle / 36524) 3
  let inCentury := inCycle - century * 36524
  let four := inCentury / 1461
  let inFour := inCentury - four * 1461
  let year := min (inFour / 365) 3
  (n - 1) / 146097 * 400 + century * 100 + four * 4 + year + 1

/-- Splits the `k`-th day (from 1) of a run of months into month and day of month. -/
def splitMonths (month : Nat) (k : Nat) : List Nat → Nat × Nat
  | [] => (month, k)
  | [_] => (month, k)
  | length :: rest => if k ≤ length then (month, k) else splitMonths (month + 1) (k - length) rest

/-- Year, month and day of the day with number `n`. -/
def civilOf (n : Int) : Civil :=
  let year := yearOf n
  let (month, day) := splitMonths 1 (n - dayBeforeYear year).toNat (monthLengths (isLeap year))
  ⟨year, month, day⟩

/-- Day number of -262143-01-01. -/
def firstDay : Int := -95746129

/-- Day number of +262142-12-31. -/
def lastDay : Int := 95745399

end Calendar

open Calendar

/-- A day of the calendar. -/
structure Date where
  /-- Days counted so that 0001-01-01 is day 1. -/
  number : Int
  inCalendar : firstDay ≤ number ∧ number ≤ lastDay
deriving DecidableEq

namespace Date

instance : LE Date := ⟨fun a b => a.number ≤ b.number⟩
instance : LT Date := ⟨fun a b => a.number < b.number⟩
instance (a b : Date) : Decidable (a ≤ b) := inferInstanceAs (Decidable (a.number ≤ b.number))
instance (a b : Date) : Decidable (a < b) := inferInstanceAs (Decidable (a.number < b.number))

/-- Two dates with one day number are the same date. -/
theorem ext {a b : Date} (h : a.number = b.number) : a = b := by
  cases a; cases b; cases h; rfl

/-- The date with day number `n`, if the calendar has it. -/
def ofNumber? (n : Int) : Option Date :=
  if h : firstDay ≤ n ∧ n ≤ lastDay then some ⟨n, h⟩ else none

/-- The first date of the calendar. -/
def first : Date := ⟨firstDay, by decide⟩

/-- The last date of the calendar. -/
def last : Date := ⟨lastDay, by decide⟩

instance : Inhabited Date := ⟨first⟩

/-- The date `n` days after `d`, if the calendar has it. -/
def addDays? (d : Date) (n : Int) : Option Date := ofNumber? (d.number + n)

/-- Year, month and day of the month. -/
def civil (d : Date) : Civil := civilOf d.number

def year (d : Date) : Int := d.civil.year
def month (d : Date) : Nat := d.civil.month

/-- The date with the given year, month and day, if there is such a day in the calendar. -/
def ofCivil? (year : Int) (month day : Nat) : Option Date :=
  if 1 ≤ month ∧ month ≤ 12 ∧ 1 ≤ day ∧ day ≤ monthLength year month then
    ofNumber? (dayNumber ⟨year, month, day⟩)
  else none

/-- Days since the last Monday: 0 on a Monday, 6 on a Sunday. -/
def sinceMonday (d : Date) : Int := (d.number - 1) % 7

/-- `text` behind as many zeros as it takes to reach `width` characters. -/
def padZeros (width : Nat) (text : String) : String :=
  String.ofList (List.replicate (width - text.length) '0') ++ text

/-- Years 0 to 9999 have four digits; all others a sign and at least four digits. -/
def yearText (year : Int) : String :=
  if 0 ≤ year ∧ year ≤ 9999 then padZeros 4 (toString year.toNat)
  else (if year < 0 then "-" else "+") ++ padZeros 4 (toString year.natAbs)

/-- ISO form of a civil date: `2026-10-17`, `-0001-12-31`, `+10000-01-01`. -/
def isoText (c : Civil) : String :=
  yearText c.year ++ "-" ++ padZeros 2 (toString c.month) ++ "-" ++ padZeros 2 (toString c.day)

/-- ISO form of a date. -/
def iso (d : Date) : String := isoText d.civil

end Date

end SemanticLayer
