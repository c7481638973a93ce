import SemanticLayer.Calendar.Grain
import SemanticLayer.Fault

/-
# The date spine: one row for every day of a horizon

A spine is built once over its horizon and holds the rows of its days in
ascending order; a sub-range is a contiguous part of them.  Days are enumerated
by stepping to the next date, so the calendar's last date, which has no next
one, gets no row; a range that ends there runs past the rows.
-/

namespace SemanticLayer

/-- Why a range of days has no rows. -/
inductive RangeError where
  /-- The range starts after it ends. -/
  | inverted (start stop : Date)
  /-- The date lies outside the horizon from `start` to `stop`. -/
  | outOfHorizon (date start stop : Date)
deriving DecidableEq

namespace RangeError

def message : RangeError → String
  | inverted start stop => "Invalid date range: " ++ start.iso ++ " is after " ++ stop.iso
  | outOfHorizon date start stop =>
    "Date " ++ date.iso ++ " is outside the supported horizon " ++ start.iso ++ " to " ++ stop.iso

def kind : RangeError → String
  | inverted .. => "InvalidRange"
  | outOfHorizon .. => "OutOfHorizon"

end RangeError

/-- The rows of the days of a horizon. -/
structure Spine where
  start : Date
  stop : Date
  rows : List DayRow
deriving DecidableEq

namespace Spine

/-- The days from `d` on that have a next day in the calendar and are not after `stop`, at most `fuel` of them. -/
def daysFrom (stop : Date) : Nat → Date → List Date
  | 0, _ => []
  | fuel + 1, d =>
    if d ≤ stop then
      match d.addDays? 1 with
      | some next => d :: daysFrom stop fuel next
      | none => []
    else []

/-- The days of a horizon that get a row. -/
def days (start stop : Date) : List Date :=
  daysFrom stop (stop.number - start.number + 1).toNat start

/-- The spine of a horizon. -/
def ofHorizon (start stop : Date) : Except (Fault RangeError) Spine :=
  if stop < start then .error (.error (.inverted start stop))
  else
    match (days start stop).mapM DayRow.ofDay? with
    | some rows => .ok ⟨start, stop, rows⟩
    | none => .error (.broken .offCalendar)

/-- Whether a date lies in the horizon. -/
def contains (s : Spine) (d : Date) : Bool := s.start ≤ d ∧ d ≤ s.stop

/-- The number of rows. -/
def length (s : Spine) : Nat := s.rows.length

/-- Accepts the dates of the horizon. -/
def check (s : Spine) (d : Date) : Except RangeError Unit :=
  if s.contains d then .ok () else .error (.outOfHorizon d s.start s.stop)

/-- Accepts an ordered range within the horizon; the start is looked at before the end. -/
def checkRange (s : Spine) (start stop : Date) : Except RangeError Unit := do
  if stop < start then throw (.inverted start stop)
  s.check start
  s.check stop

/-- How many days `d` is after the start of the horizon. -/
def offset (s : Spine) (d : Date) : Nat := (d.number - s.start.number).toNat

/-- The rows of the days from `start` to `stop`, ascending. -/
def between (s : Spine) (start stop : Date) : Except (Fault RangeError) (List DayRow) :=
  match s.checkRange start stop with
  | .error e => .error (.error e)
  | .ok () =>
    if s.offset stop < s.length then
      .ok ((s.rows.drop (s.offset start)).take (s.offset stop + 1 - s.offset start))
    else .error (.broken .offCalendar)

end Spine

end SemanticLayer
