import SemanticLayer.Proofs.Calendar.DayRows
import SemanticLayer.Proofs.Calendar.Months
import SemanticLayer.Proofs.Question.Separation

/-
# The days of named periods

Which days a name stands for, seen from today:

| period | its days |
| --- | --- |
| today, yesterday | the day, the day before |
| this week, month, year | those of the period that holds today, up to today |
| last week, month, year | all those of the period before |

Weeks start on Mondays.  `named_periods_exact` says that a range holds these
days and no others, whenever the calendar has the year before today's.
-/

namespace SemanticLayer

/-- The days of a period, seen from `today`. -/
def Period.Holds (today d : Date) : Period → Prop
  | .today => d = today
  | .yesterday => d.number + 1 = today.number
  | .thisWeek => d.index .week = today.index .week ∧ d ≤ today
  | .lastWeek => d.index .week + 1 = today.index .week
  | .thisMonth => d.year = today.year ∧ d.month = today.month ∧ d ≤ today
  | .lastMonth =>
    if today.month = 1 then d.year + 1 = today.year ∧ d.month = 12
    else d.year = today.year ∧ d.month + 1 = today.month
  | .thisYear => d.year = today.year ∧ d ≤ today
  | .lastYear => d.year + 1 = today.year

namespace Period

variable {g : Grain} {today start stop : Date}

/-! ### The period of today and the one before -/

/-- **The period that holds today** reaches from its start to today. -/
theorem mem_current (h : current? g today = some (start, stop)) (d : Date) :
    start ≤ d ∧ d ≤ stop ↔ d.index g = today.index g ∧ d ≤ today := by
  obtain ⟨first, hfirst, hrange⟩ := Option.bind_eq_some_iff.1 h
  cases hrange
  rw [Date.le_iff_index hfirst]
  exact and_congr_left fun hd =>
    ⟨fun hle => Int.le_antisymm (Date.index_mono hd g) hle, fun heq => Int.le_of_eq heq.symm⟩

/-- **The period before** holds the days whose next period is today's. -/
theorem mem_previous (h : previous? g today = some (start, stop)) (d : Date) :
    start ≤ d ∧ d ≤ stop ↔ d.index g + 1 = today.index g := by
  obtain ⟨first, hfirst, h⟩ := Option.bind_eq_some_iff.1 h
  obtain ⟨last, hlast, h⟩ := Option.bind_eq_some_iff.1 h
  obtain ⟨begin, hbegin, hrange⟩ := Option.bind_eq_some_iff.1 h
  cases hrange
  have hnumber : stop.number + 1 = first.number := by
    rw [Date.addDays?_eq_some.1 hlast]
    omega
  have hbefore : d ≤ stop ↔ d.index g < today.index g := by
    rw [← Int.not_le, ← Date.le_iff_index hfirst]
    change d.number ≤ stop.number ↔ ¬ first.number ≤ d.number
    omega
  -- the last day belongs to the period just before
  have hstop : stop.index g + 1 = today.index g := by
    have hnext := Date.index_le_succ hnumber g
    have hsame : today.index g ≤ first.index g :=
      (Date.le_iff_index hfirst first).1 (Int.le_refl _)
    have hlt : ¬ today.index g ≤ stop.index g := by
      rw [← Date.le_iff_index hfirst]
      change ¬ first.number ≤ stop.number
      omega
    omega
  rw [hbefore, Date.le_iff_index hbegin]
  omega

/-! ### Calendars that reach far enough -/

section Reach

variable (h : -262143 < today.year)
include h

/-- The year before today's is in the calendar as a whole. -/
theorem firstDay_add_le : Calendar.firstDay + 365 ≤ today.number := by
  obtain ⟨hlo, -⟩ := Calendar.yearOf_bounds today.number
  have hmono : Calendar.dayBeforeYear (-262142) ≤
      Calendar.dayBeforeYear (Calendar.yearOf today.number) := Calendar.dayBeforeYear_mono h
  have hyear : Calendar.dayBeforeYear (-262142) = Calendar.firstDay + 364 := by decide
  omega

/-- Each grain has a period that ends before today and does not start before the calendar. -/
theorem exists_startOf? (g : Grain) :
    ∃ first, today.startOf? g = some first ∧ first ≤ today ∧ Calendar.firstDay + 5 < first.number := by
  have hmonday : Date.firstMonday ≤ today := by
    have hle := firstDay_add_le h
    change Calendar.firstDay + 4 ≤ today.number
    omega
  obtain ⟨row, hrow⟩ := DayRow.exists_ofDay?_iff.2 hmonday
  have hfirst := (DayRow.startOf?_of_ofDay? hrow).2 g
  refine ⟨row.get g, hfirst, (Date.le_iff_index hfirst today).2 (Int.le_refl _), ?_⟩
  -- a day of the second week of the calendar is in an earlier period of any grain
  obtain ⟨early, hearly⟩ : ∃ d : Date, d.number = Calendar.firstDay + 5 :=
    ⟨⟨Calendar.firstDay + 5, by decide⟩, rfl⟩
  have hcivil : early.civil = ⟨-262143, 1, 6⟩ := by
    rw [Date.civil, hearly]
    decide
  obtain ⟨hyear, hmonth⟩ := Date.year_month_of_civil hcivil
  have hmonth' : 1 ≤ today.month ∧ today.month ≤ 12 := today.month_bounds
  have hle := firstDay_add_le h
  have hlt : early.index g < today.index g := by
    cases g <;> dsimp only [Date.index] <;> omega
  have hnot : ¬ row.get g ≤ early := by
    rw [Date.le_iff_index hfirst]
    exact Int.not_le.2 hlt
  exact hearly ▸ Int.not_le.1 hnot

theorem exists_current? (g : Grain) :
    ∃ start stop, current? g today = some (start, stop) ∧ start ≤ stop ∧ stop ≤ today := by
  obtain ⟨first, hfirst, hle, -⟩ := exists_startOf? h g
  exact ⟨first, today, by rw [current?, hfirst]; rfl, hle, Int.le_refl _⟩

theorem exists_previous? (g : Grain) :
    ∃ start stop, previous? g today = some (start, stop) ∧ start ≤ stop ∧ stop ≤ today := by
  obtain ⟨first, hfirst, hle, hearly⟩ := exists_startOf? h g
  have hin := first.inCalendar
  obtain ⟨stop, hstop⟩ : ∃ d : Date, d.number = first.number - 1 :=
    ⟨⟨first.number - 1, by omega⟩, rfl⟩
  have hmonday : Date.firstMonday ≤ stop := by
    change Calendar.firstDay + 4 ≤ stop.number
    omega
  obtain ⟨row, hrow⟩ := DayRow.exists_ofDay?_iff.2 hmonday
  have hstart := (DayRow.startOf?_of_ofDay? hrow).2 g
  refine ⟨row.get g, stop, ?_, (Date.le_iff_index hstart stop).2 (Int.le_refl _), ?_⟩
  · rw [previous?, hfirst, Option.bind_eq_bind, Option.bind_some, Date.addDays?_eq_some.2 hstop,
      Option.bind_some, hstart]
    rfl
  · have hle' : first.number ≤ today.number := hle
    change stop.number ≤ today.number
    omega

end Reach

/-! ### The days of a name -/

/-- **The days of a period are those of its grain,** of today's period or of the one before. -/
theorem mem_range (p : Period) (h : p.range? today = some (start, stop)) (d : Date) :
    start ≤ d ∧ d ≤ stop ↔ p.Holds today d := by
  have hmonth : 1 ≤ d.month ∧ d.month ≤ 12 := d.month_bounds
  have hmonth' : 1 ≤ today.month ∧ today.month ≤ 12 := today.month_bounds
  cases p with
  | today =>
    cases h
    change today.number ≤ d.number ∧ d.number ≤ today.number ↔ d = today
    exact ⟨fun ⟨hle, hge⟩ => Date.ext (Int.le_antisymm hge hle), by rintro rfl; omega⟩
  | yesterday => exact mem_previous h d
  | thisWeek => exact mem_current h d
  | lastWeek => exact mem_previous h d
  | thisMonth =>
    rw [mem_current h, Holds, ← and_assoc]
    refine and_congr_left fun _ => ?_
    dsimp only [Date.index]
    omega
  | lastMonth =>
    rw [mem_previous h, Holds]
    dsimp only [Date.index]
    split <;> omega
  | thisYear => exact mem_current h d
  | lastYear => exact mem_previous h d

theorem exists_range? (h : -262143 < today.year) (p : Period) :
    ∃ start stop, p.range? today = some (start, stop) ∧ start ≤ stop ∧ stop ≤ today := by
  cases p with
  | today => exact ⟨today, today, rfl, Int.le_refl _, Int.le_refl _⟩
  | yesterday => exact exists_previous? h .day
  | thisWeek => exact exists_current? h .week
  | lastWeek => exact exists_previous? h .week
  | thisMonth => exact exists_current? h .month
  | lastMonth => exact exists_previous? h .month
  | thisYear => exact exists_current? h .year
  | lastYear => exact exists_previous? h .year

end Period

namespace DatePhrase

open Text

/-- The only phrases of a text are names of one period. -/
structure NamesOnly (p : Period) (text : List Char) : Prop where
  no_date : mentions explicitDate text = []
  no_days : mentions lastDays text = []
  no_vague : mentions vague text = []
  named : periodsOf (lowerFrom [] text) = [p]

/-- **A text that names one period** has its days. -/
theorem resolve_of_namesOnly {p : Period} {text : String} {today : Date} {range : Date × Date}
    (h : NamesOnly p text.toList) (hrange : p.range? today = some range) :
    resolve text today = .ok (some range) := by
  have hundated : undated text.toList = text.toList :=
    withoutMentions_of_mentions_eq_nil h.no_date
  have hunnumbered : unnumbered text.toList = text.toList := by
    rw [unnumbered, hundated, withoutMentions_of_mentions_eq_nil h.no_days]
  refine resolve_eq_ok.2 ⟨⟨[], [], [], [range]⟩, ⟨?_, rfl, ?_, ?_, ?_⟩, rfl⟩
  · rw [h.no_date]
    rfl
  · rw [hundated, h.no_days]
    rfl
  · rw [hunnumbered, h.no_vague]
  · rw [hunnumbered, h.named, List.map_singleton, namedPeriod, hrange]
    rfl

/-- The names of a period name it and nothing else. -/
theorem namesOnly_of_mem {p : Period} {names : List String} (h : (p, names) ∈ Period.names)
    {name : String} (hname : name ∈ names) : NamesOnly p name.toList := by
  have hdate : ∀ e ∈ Period.names, ∀ n ∈ e.2, (mentions explicitDate n.toList).isEmpty := by
    decide +kernel
  have hdigits : ∀ e ∈ Period.names, ∀ n ∈ e.2, n.toList.all (!isDecimal ·) := by decide +kernel
  have hvague : ∀ e ∈ Period.names, ∀ n ∈ e.2,
      n.toList.all (fun c => c != '近' && !foldsTo 'c' c) = true := by decide
  have hlower : ∀ e ∈ Period.names, ∀ n ∈ e.2, lowerFrom [] n.toList = n.toList := by
    decide +kernel
  have hnamed : ∀ e ∈ Period.names, ∀ n ∈ e.2, periodsOf n.toList = [e.1] := by decide
  have hundigited : ∀ c ∈ name.toList, isDecimal c = false := by
    simpa using hdigits _ h name hname
  exact ⟨List.isEmpty_iff.1 (hdate _ h name hname), mentions_lastDays_of_not_decimal hundigited,
    mentions_vague_eq_nil (by decide) (hvague _ h name hname),
    by rw [hlower _ h name hname, hnamed _ h name hname]⟩

/-- **Named periods are exact.**  If the calendar has the year before today's, each period has a
range up to today at most, which holds its days and no others; and this range is the answer to each
of its names, and to every text that has no other phrase. -/
theorem named_periods_exact {today : Date} (h : -262143 < today.year) (p : Period) :
    ∃ start stop, p.range? today = some (start, stop) ∧ start ≤ stop ∧ stop ≤ today ∧
      (∀ d, start ≤ d ∧ d ≤ stop ↔ p.Holds today d) ∧
      (∀ names, (p, names) ∈ Period.names → ∀ name ∈ names, NamesOnly p name.toList) ∧
      ∀ text : String, NamesOnly p text.toList → resolve text today = .ok (some (start, stop)) := by
  obtain ⟨start, stop, hrange, hordered, htoday⟩ := Period.exists_range? h p
  exact ⟨start, stop, hrange, hordered, htoday, p.mem_range hrange,
    fun _ hnames _ hname => namesOnly_of_mem hnames hname,
    fun _ htext => resolve_of_namesOnly htext hrange⟩

/-- On the first day of a year the last month is the December of the year before. -/
theorem named_periods_exact_newYear :
    -262143 < Visits.newYear.year ∧ ∃ start stop,
      (∀ d : Date, start ≤ d ∧ d ≤ stop ↔ d.year + 1 = Visits.newYear.year ∧ d.month = 12) ∧
      resolve "last month" Visits.newYear = .ok (some (start, stop)) ∧
      resolve "上个月" Visits.newYear = .ok (some (start, stop)) := by
  have hyear : -262143 < Visits.newYear.year := by decide
  have hjanuary : Visits.newYear.month = 1 := by decide
  obtain ⟨start, stop, -, -, -, hdays, hnames, hresolve⟩ := named_periods_exact hyear .lastMonth
  simp only [Period.Holds, if_pos hjanuary] at hdays
  have hnamed : (Period.lastMonth, ["last month", "上月", "上个月"]) ∈ Period.names := by decide
  exact ⟨hyear, start, stop, hdays, hresolve _ (hnames _ hnamed _ (by decide)),
    hresolve _ (hnames _ hnamed _ (by decide))⟩

end DatePhrase

end SemanticLayer
