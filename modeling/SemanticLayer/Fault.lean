/-
# Failures without an answer

Most failures are errors that are reported in words.  A few leave nothing to
report: a day, a name or a place was needed where there is none.
-/

namespace SemanticLayer

/-- What was needed and is not there. -/
inductive Breakdown where
  /-- A day outside the calendar. -/
  | offCalendar
  /-- The name of the one who gives rights, after the words that announce it. -/
  | noGrantor
  /-- The location of an external table, without which the table has no text. -/
  | noLocation
deriving DecidableEq

/-- A failure: an error that is reported, or a breakdown that is not. -/
inductive Fault (ε : Type) where
  | error (e : ε)
  | broken (b : Breakdown)
deriving DecidableEq

end SemanticLayer
