import SemanticLayer.Calendar.DateText
import SemanticLayer.Calendar.Grain
import SemanticLayer.Calendar.Spine
import SemanticLayer.Text.Lowercase
import SemanticLayer.Text.Mention

/-
# Date phrases

The range of days that a question asks about is taken from the phrases in it:

| phrase | range |
| --- | --- |
| one date `2026-10-17` or `2026/10/17` | that day |
| two dates | from the first to the second, as they are written |
| `last 7 days`, `past 7 days`, `最近7天`, `近7天`, `过去7天` | so many days up to today |
| `today`, `this week`, `last month`, … | the named period, up to today if it is not over |

Dates are taken out of the text before numbers of days are looked for, and
these before named periods.  Phrases that say different ranges, three dates, a
date that no calendar has, and phrases such as `recently` are ambiguous.
-/

namespace SemanticLayer

open Text

/-- A phrase that does not say one range of days. -/
structure AmbiguousRange where
  phrase : String
deriving DecidableEq

/-- The periods that have names of their own. -/
inductive Period where
  | today | yesterday | thisWeek | lastWeek | thisMonth | lastMonth | thisYear | lastYear
deriving DecidableEq

namespace Period

/-- The names of a period, in lower case. -/
def names : List (Period × List String) :=
  [(.today, ["today", "今天", "今日"]), (.yesterday, ["yesterday", "昨天", "昨日"]),
   (.thisWeek, ["this week", "本周", "这周"]), (.lastWeek, ["last week", "上周"]),
   (.thisMonth, ["this month", "本月", "这个月"]), (.lastMonth, ["last month", "上月", "上个月"]),
   (.thisYear, ["this year", "今年"]), (.lastYear, ["last year", "去年"])]

/-- The period of a grain that ended last before `today`. -/
def previous? (grain : Grain) (today : Date) : Option (Date × Date) := do
  let stop ← (← today.startOf? grain).addDays? (-1)
  return (← stop.startOf? grain, stop)

/-- The period of a grain that holds `today`, up to it. -/
def current? (grain : Grain) (today : Date) : Option (Date × Date) := do
  return (← today.startOf? grain, today)

/-- The days of a period; there are none when the calendar does not reach so far. -/
def range? (today : Date) : Period → Option (Date × Date)
  | .today => some (today, today)
  | .yesterday => previous? .day today
  | .thisWeek => current? .week today
  | .lastWeek => previous? .week today
  | .thisMonth => current? .month today
  | .lastMonth => previous? .month today
  | .thisYear => current? .year today
  | .lastYear => previous? .year today

end Period

namespace DatePhrase

/-- The value of digits, if all of them are ASCII. -/
def asciiNumber? (ds : List Char) : Option Nat :=
  if ds.all Char.isDigit then some (DateText.digitsValue ds) else none

/-- One or two digits. -/
def shortNumber (cs : List Char) : List Char := (cs.take 2).takeWhile isDecimal

/-- Whether a character stands between the numbers of a date. -/
def isDateMark (c : Char) : Bool := c == '-' || c == '/'

/-- What follows the mark between two numbers. -/
def afterMark : List Char → Option (List Char)
  | c :: rest => if isDateMark c then some rest else none
  | [] => none

/-- The digits of a date: four for the year, one or two for month and day. -/
structure DateDigits where
  year : List Char
  month : List Char
  day : List Char

/-- The date of some digits, if the calendar has it. -/
def DateDigits.date? (d : DateDigits) : Option Date := do
  Date.ofCivil? (← asciiNumber? d.year) (← asciiNumber? d.month) (← asciiNumber? d.day)

/-- Finds the digits of a date. -/
def explicitDate : Finder DateDigits := fun _ cs => do
  let year := cs.take 4
  if year.length < 4 ∨ !year.all isDecimal then none
  let rest ← afterMark (cs.drop 4)
  let month := shortNumber rest
  if month.isEmpty then none
  let rest ← afterMark (rest.drop month.length)
  let day := shortNumber rest
  if day.isEmpty then none
  return (⟨year, month, day⟩, 5 + month.length + day.length)

/-- The words before a number of days; `true` for those that have to start a word. -/
def daysOpenings : List (Bool × List Char) :=
  [(false, ['最', '近']), (false, ['近']), (false, ['过', '去']), (true, ['l', 'a', 's', 't']),
   (true, ['p', 'a', 's', 't'])]

/-- What follows the unit behind a number of days. -/
def afterDayUnit (cs : List Char) : Option (List Char) :=
  match cs with
  | '天' :: rest => some rest
  | '日' :: rest => some rest
  | _ => do
    let rest ← afterLetters ['d', 'a', 'y'] cs
    match afterLetters ['s'] rest with
    | some more => if endsWord more.head? then some more else none
    | none => if endsWord rest.head? then some rest else none

/-- Finds a number of days up to today; the number is unknown if its digits are not ASCII. -/
def lastDays : Finder (Option Nat) := fun before cs =>
  daysOpenings.findSome? fun (startsWord, opening) => do
    if startsWord ∧ !endsWord before then none
    let rest := skipBlank (← afterLetters opening cs)
    let digits := rest.takeWhile isDecimal
    if digits.isEmpty then none
    let rest ← afterDayUnit (skipBlank (rest.drop digits.length))
    return (asciiNumber? digits, cs.length - rest.length - 1)

/-- Finds a phrase that names no range. -/
def vague : Finder Unit := fun before cs =>
  match cs with
  | '最' :: '近' :: _ => some ((), 1)
  | '近' :: '期' :: _ => some ((), 1)
  | _ => do
    if !endsWord before then none
    let rest ← afterLetters ['r', 'e', 'c', 'e', 'n', 't'] cs
    match afterLetters ['l', 'y'] rest with
    | some more => if endsWord more.head? then some ((), 7) else short rest
    | none => short rest
where
  /-- The phrase without its last two letters. -/
  short (rest : List Char) : Option (Unit × Nat) :=
    if endsWord rest.head? then some ((), 5) else none

/-- The error that a phrase is ambiguous. -/
def ambiguous {α : Type} (phrase : List Char) : Except (Fault AmbiguousRange) α :=
  .error (.error ⟨String.ofList phrase⟩)

/-- A date that a text mentions. -/
def mentionedDate (m : Mention DateDigits) : Except (Fault AmbiguousRange) Date :=
  match m.said.date? with
  | some d => .ok d
  | none => ambiguous m.text

/-- The days that a text mentions by their number. -/
def mentionedDays (today : Date) (m : Mention (Option Nat)) :
    Except (Fault AmbiguousRange) (Date × Date) :=
  match m.said with
  | some n =>
    if n = 0 then ambiguous m.text
    else
      match today.addDays? (1 - (n : Int)) with
      | some start => .ok (start, today)
      | none => ambiguous m.text
  | none => ambiguous m.text

/-- The range of the dates that a text mentions. -/
def ofDates (text : List Char) : List Date → Except (Fault AmbiguousRange) (List (Date × Date))
  | [] => .ok []
  | [d] => .ok [(d, d)]
  | [start, stop] => .ok [(start, stop)]
  | _ => ambiguous text

/-- The days of a period that a text names. -/
def namedPeriod (today : Date) (p : Period) : Except (Fault AmbiguousRange) (Date × Date) :=
  match p.range? today with
  | some range => .ok range
  | none => .error (.broken .offCalendar)

/-- The periods that a text in lower case names. -/
def periodsOf (cs : List Char) : List Period :=
  (Period.names.filter fun (_, names) => names.any fun n => occursIn n.toList cs).map (·.1)

/-- The one range that several phrases say. -/
def common (text : List Char) : List (Date × Date) → Except (Fault AmbiguousRange) (Option (Date × Date))
  | [] => .ok none
  | r :: rest => if rest.all (· == r) then .ok (some r) else ambiguous text

/-- The range of days that a question asks about; nothing when it has no date phrase. -/
def resolve (question : String) (today : Date) :
    Except (Fault AmbiguousRange) (Option (Date × Date)) := do
  let text := question.toList
  let dates ← (mentions explicitDate text).mapM mentionedDate
  let dateRanges ← ofDates text dates
  let rest := withoutMentions explicitDate text
  let dayRanges ← (mentions lastDays rest).mapM (mentionedDays today)
  let rest := withoutMentions lastDays rest
  if let some m := (mentions vague rest).head? then ambiguous m.text
  let periodRanges ← (periodsOf (lowerFrom [] rest)).mapM (namedPeriod today)
  common text (dateRanges ++ dayRanges ++ periodRanges)

end DatePhrase

/-- The message of an ambiguous phrase. -/
def AmbiguousRange.message (e : AmbiguousRange) : String := "Ambiguous date range: " ++ e.phrase

end SemanticLayer
