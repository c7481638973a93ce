import SemanticLayer.Calendar.Date

/-
# Grains: the periods a series is grouped by

| grain | a day belongs to the period that starts on |
| --- | --- |
| day | the day itself |
| week | the Monday not after it |
| month | the first of its month |
| quarter | the first of January, April, July or October not after it |
| year | 1 January of its year |

Only the week can start before the calendar does.
-/

namespace SemanticLayer

/-- What a series is grouped by. -/
inductive Grain where
  | day | week | month | quarter | year
deriving DecidableEq, Repr, Inhabited

namespace Grain

/-- All grains, finest first. -/
def all : List Grain := [.day, .week, .month, .quarter, .year]

/-- The name of a grain in documents. -/
def name : Grain → String
  | day => "day"
  | week => "week"
  | month => "month"
  | quarter => "quarter"
  | year => "year"

/-- The calendar column that holds the start of a day's period. -/
def column : Grain → String
  | day => "date_day"
  | week => "date_week"
  | month => "date_month"
  | quarter => "date_quarter"
  | year => "date_year"

/-- The names of the calendar columns, finest grain first. -/
def columns : List String := all.map column

end Grain

namespace Date

/-- First month of the quarter that holds `month`: 1, 4, 7 or 10. -/
def quarterMonth (month : Nat) : Nat := (month - 1) / 3 * 3 + 1

/-- The day on which the period of `grain` that holds `d` starts, if the calendar has it. -/
def startOf? (d : Date) : Grain → Option Date
  | .day => some d
  | .week => d.addDays? (-d.sinceMonday)
  | .month => ofCivil? d.year d.month 1
  | .quarter => ofCivil? d.year (quarterMonth d.month) 1
  | .year => ofCivil? d.year 1 1

end Date

/-- A day and the starts of the periods that hold it. -/
structure DayRow where
  day : Date
  week : Date
  month : Date
  quarter : Date
  year : Date
deriving DecidableEq

namespace DayRow

/-- The row of `d`; there is none when its Monday lies before the calendar. -/
def ofDay? (d : Date) : Option DayRow := do
  return {
    day := d
    week := ← d.startOf? .week
    month := ← d.startOf? .month
    quarter := ← d.startOf? .quarter
    year := ← d.startOf? .year }

/-- The start of the period of a grain. -/
def get (row : DayRow) : Grain → Date
  | .day => row.day
  | .week => row.week
  | .month => row.month
  | .quarter => row.quarter
  | .year => row.year

/-- The dates of a row in the order of `Grain.all`. -/
def toList (row : DayRow) : List Date := Grain.all.map row.get

end DayRow

end SemanticLayer
