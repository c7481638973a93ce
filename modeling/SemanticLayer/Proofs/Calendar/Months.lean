import SemanticLayer.Proofs.Calendar.Periods

/-
# Months and years of days

Year, month and day order the days as their numbers do
(`Calendar.dayNumber_le_iff`), so a date is written in one way
(`Date.ofCivil?_eq_some`).  The periods of a grain follow one another without a
gap (`Date.index_le_succ`), and each starts where `Date.startOf?` says
(`Date.le_iff_index`).
-/

namespace SemanticLayer

open Calendar

/-- A day that its month has, in any year. -/
structure Civil.Valid (c : Civil) : Prop where
  month : 1 ≤ c.month ∧ c.month ≤ 12
  day : 1 ≤ c.day ∧ c.day ≤ monthLength c.year c.month

namespace Calendar

/-- The days before a month are those before the last one and of the last one. -/
theorem daysBeforeMonth_succ (year : Int) {month : Nat} (h : 1 ≤ month ∧ month ≤ 12) :
    daysBeforeMonth year (month + 1) = daysBeforeMonth year month + monthLength year month := by
  have hall : ∀ leap, ∀ m < 12, ((monthLengths leap).take (m + 1)).foldl (· + ·) 0 =
      ((monthLengths leap).take m).foldl (· + ·) 0 + (monthLengths leap).getD m 0 := by decide
  obtain ⟨m, rfl⟩ := Nat.exists_eq_add_of_le' h.1
  unfold daysBeforeMonth monthLength
  rw [if_neg (Nat.succ_ne_zero m)]
  exact hall _ m (by omega)

/-- The days before the thirteenth month are those of the year. -/
theorem daysBeforeMonth_thirteen (year : Int) :
    dayBeforeYear year + daysBeforeMonth year 13 = dayBeforeYear (year + 1) := by
  have hsum : ∀ leap, ((monthLengths leap).take 12).foldl (· + ·) 0 =
      365 + if leap then 1 else 0 := by decide
  have hdays : daysBeforeMonth year 13 = 365 + if isLeap year then 1 else 0 := hsum _
  rw [dayBeforeYear_succ, hdays]
  split <;> omega

/-- A day of a year is numbered within the year. -/
theorem dayNumber_bounds {c : Civil} (hc : c.Valid) :
    dayBeforeYear c.year < dayNumber c ∧ dayNumber c ≤ dayBeforeYear (c.year + 1) := by
  obtain ⟨hmonth, hday⟩ := hc
  have hsucc := daysBeforeMonth_succ c.year hmonth
  have hyear := daysBeforeMonth_thirteen c.year
  have hall : ∀ leap, ∀ m ≤ 12, ((monthLengths leap).take m).foldl (· + ·) 0 ≤
      ((monthLengths leap).take 12).foldl (· + ·) 0 := by decide
  have hmono : daysBeforeMonth c.year (c.month + 1) ≤ daysBeforeMonth c.year 13 :=
    hall _ c.month hmonth.2
  unfold dayNumber
  omega

theorem dayNumber_lt_of_year_lt {a b : Civil} (ha : a.Valid) (hb : b.Valid)
    (h : a.year < b.year) : dayNumber a < dayNumber b :=
  calc dayNumber a ≤ dayBeforeYear (a.year + 1) := (dayNumber_bounds ha).2
    _ ≤ dayBeforeYear b.year := dayBeforeYear_mono h
    _ < dayNumber b := (dayNumber_bounds hb).1

theorem dayNumber_lt_of_month_lt {a b : Civil} (ha : a.Valid) (hb : b.Valid)
    (hyear : a.year = b.year) (h : a.month < b.month) : dayNumber a < dayNumber b := by
  have hsucc := daysBeforeMonth_succ a.year ha.month
  have hmono := daysBeforeMonth_mono a.year (show a.month + 1 ≤ b.month from h) hb.month.2
  have hday := ha.day.2
  have hday' := hb.day.1
  unfold dayNumber
  rw [← hyear]
  omega

/-- **Days are numbered in the order of year, month and day.** -/
theorem dayNumber_le_iff {a b : Civil} (ha : a.Valid) (hb : b.Valid) :
    dayNumber a ≤ dayNumber b ↔ a.year < b.year ∨
      a.year = b.year ∧ (a.month < b.month ∨ a.month = b.month ∧ a.day ≤ b.day) := by
  rcases Int.lt_trichotomy a.year b.year with hyear | hyear | hyear
  · have := dayNumber_lt_of_year_lt ha hb hyear
    omega
  · rcases Nat.lt_trichotomy a.month b.month with hmonth | hmonth | hmonth
    · have := dayNumber_lt_of_month_lt ha hb hyear hmonth
      omega
    · simp only [dayNumber, hyear, hmonth, Int.lt_irrefl, Nat.lt_irrefl, true_and, false_or]
      omega
    · have := dayNumber_lt_of_month_lt hb ha hyear.symm hmonth
      omega
  · have := dayNumber_lt_of_year_lt hb ha hyear
    omega

/-- **A day number stands for one year, month and day.** -/
theorem dayNumber_inj {a b : Civil} (ha : a.Valid) (hb : b.Valid) :
    dayNumber a = dayNumber b ↔ a = b := by
  refine ⟨fun h => ?_, congrArg dayNumber⟩
  have hle := (dayNumber_le_iff ha hb).1 (Int.le_of_eq h)
  have hge := (dayNumber_le_iff hb ha).1 (Int.le_of_eq h.symm)
  obtain ⟨year, month, day⟩ := a
  obtain ⟨year', month', day'⟩ := b
  rw [Civil.mk.injEq]
  dsimp only at hle hge
  omega

theorem valid_civilOf (n : Int) : (civilOf n).Valid :=
  ⟨(civilOf_spec n).1, (civilOf_spec n).2.1⟩

theorem civilOf_eq_iff {n : Int} {c : Civil} (hc : c.Valid) : civilOf n = c ↔ dayNumber c = n := by
  rw [← dayNumber_inj (valid_civilOf n) hc, (civilOf_spec n).2.2, eq_comm]

end Calendar

namespace Date

theorem year_month_of_civil {d : Date} {y : Int} {m k : Nat} (h : d.civil = ⟨y, m, k⟩) :
    d.year = y ∧ d.month = m :=
  ⟨congrArg Civil.year h, congrArg Civil.month h⟩

theorem valid_civil (d : Date) : d.civil.Valid := valid_civilOf d.number

/-- Dates are in the order of their years, months and days. -/
theorem le_iff_civil {a b : Date} :
    a ≤ b ↔ a.civil.year < b.civil.year ∨ a.civil.year = b.civil.year ∧
      (a.civil.month < b.civil.month ∨ a.civil.month = b.civil.month ∧ a.civil.day ≤ b.civil.day) := by
  have ha : dayNumber a.civil = a.number := (civilOf_spec a.number).2.2
  have hb : dayNumber b.civil = b.number := (civilOf_spec b.number).2.2
  rw [← dayNumber_le_iff a.valid_civil b.valid_civil, ha, hb]
  rfl

theorem ofNumber?_eq_some {n : Int} {d : Date} : ofNumber? n = some d ↔ d.number = n := by
  unfold ofNumber?
  constructor
  · intro h
    split at h
    · cases h
      rfl
    · cases h
  · rintro rfl
    exact dif_pos d.inCalendar

theorem addDays?_eq_some {d e : Date} {n : Int} :
    d.addDays? n = some e ↔ e.number = d.number + n := ofNumber?_eq_some

/-- **A date is found by its year, month and day, and by no other.** -/
theorem ofCivil?_eq_some {year : Int} {month day : Nat} {d : Date} :
    ofCivil? year month day = some d ↔ d.civil = ⟨year, month, day⟩ := by
  constructor
  · intro h
    unfold ofCivil? at h
    split at h
    · rename_i hvalid
      obtain ⟨hlo, hhi, hday⟩ := hvalid
      exact (civilOf_eq_iff ⟨⟨hlo, hhi⟩, hday⟩).2 (ofNumber?_eq_some.1 h).symm
    · cases h
  · intro h
    have hfound := d.ofCivil?_civil
    rw [h] at hfound
    exact hfound

/-! ### From one day to the next -/

/-- **The day before a day:** of the same month, the last of the month before, or the last of the
year before. -/
theorem civil_before {d e : Date} (h : d.number + 1 = e.number) :
    (1 < e.civil.day ∧ d.civil = ⟨e.year, e.month, e.civil.day - 1⟩) ∨
    (e.civil.day = 1 ∧ 1 < e.month ∧
      d.civil = ⟨e.year, e.month - 1, monthLength e.year (e.month - 1)⟩) ∨
    (e.civil.day = 1 ∧ e.month = 1 ∧ d.civil = ⟨e.year - 1, 12, 31⟩) := by
  have hmonth : 1 ≤ e.month ∧ e.month ≤ 12 := e.month_bounds
  have hday : 1 ≤ e.civil.day ∧ e.civil.day ≤ monthLength e.year e.month := e.day_bounds
  have hnumber : dayBeforeYear e.year + daysBeforeMonth e.year e.month + e.civil.day = e.number :=
    (civilOf_spec e.number).2.2
  rcases Nat.lt_or_eq_of_le hday.1 with hlater | hfirst
  · have hvalid : Civil.Valid ⟨e.year, e.month, e.civil.day - 1⟩ :=
      ⟨hmonth, by dsimp only; omega⟩
    refine .inl ⟨hlater, (civilOf_eq_iff hvalid).2 ?_⟩
    dsimp only [dayNumber]
    omega
  · rcases Nat.lt_or_eq_of_le hmonth.1 with hlater | hjanuary
    · have hlast : 1 ≤ e.month - 1 ∧ e.month - 1 ≤ 12 := by omega
      have hpos := monthLength_pos e.year hlast
      have hsucc := daysBeforeMonth_succ e.year hlast
      rw [Nat.sub_add_cancel hmonth.1] at hsucc
      refine .inr (.inl ⟨hfirst.symm, hlater, (civilOf_eq_iff ⟨hlast, hpos, Nat.le_refl _⟩).2 ?_⟩)
      dsimp only [dayNumber]
      omega
    · have hall : ∀ leap, (monthLengths leap).getD 11 0 = 31 := by decide
      have hlength : monthLength (e.year - 1) 12 = 31 := hall (isLeap (e.year - 1))
      have hbefore := daysBeforeMonth_thirteen (e.year - 1)
      have hdecember : daysBeforeMonth (e.year - 1) 13 =
          daysBeforeMonth (e.year - 1) 12 + monthLength (e.year - 1) 12 :=
        daysBeforeMonth_succ (e.year - 1) (by omega)
      have hzero : daysBeforeMonth e.year 1 = 0 := rfl
      refine .inr (.inr ⟨hfirst.symm, hjanuary.symm,
        (civilOf_eq_iff ⟨by dsimp only; omega, by dsimp only; omega⟩).2 ?_⟩)
      rw [← hjanuary, hzero] at hnumber
      rw [Int.sub_add_cancel] at hbefore
      dsimp only [dayNumber]
      omega

/-! ### Periods, counted through -/

/-- Which period of a grain holds a day, of all that follow one another. -/
def index (d : Date) : Grain → Int
  | .day => d.number
  | .week => (d.number - 1) / 7
  | .month => 12 * d.year + d.month
  | .quarter => 4 * d.year + ((d.month - 1) / 3 : Nat)
  | .year => d.year

/-- Later days are in later periods. -/
theorem index_mono {d e : Date} (h : d ≤ e) (g : Grain) : d.index g ≤ e.index g := by
  have hnumber : d.number ≤ e.number := h
  have hcivil : d.year < e.year ∨ d.year = e.year ∧ (d.month < e.month ∨ d.month = e.month ∧ _) :=
    le_iff_civil.1 h
  have hmonth : 1 ≤ d.month ∧ d.month ≤ 12 := d.month_bounds
  have hmonth' : 1 ≤ e.month ∧ e.month ≤ 12 := e.month_bounds
  cases g <;> dsimp only [index] <;> omega

/-- **No period is left out** from one day to the next. -/
theorem index_le_succ {d e : Date} (h : d.number + 1 = e.number) (g : Grain) :
    e.index g ≤ d.index g + 1 := by
  have hmonth : 1 ≤ e.month ∧ e.month ≤ 12 := e.month_bounds
  have hcivil : (d.year = e.year ∧ (d.month = e.month ∨ 1 < e.month ∧ d.month = e.month - 1)) ∨
      (d.year = e.year - 1 ∧ d.month = 12 ∧ e.month = 1) := by
    rcases civil_before h with ⟨-, hd⟩ | ⟨-, hlater, hd⟩ | ⟨-, hjanuary, hd⟩ <;>
      obtain ⟨hyear, hmonth⟩ := year_month_of_civil hd
    · exact .inl ⟨hyear, .inl hmonth⟩
    · exact .inl ⟨hyear, .inr ⟨hlater, hmonth⟩⟩
    · exact .inr ⟨hyear, hmonth, hjanuary⟩
  cases g <;> dsimp only [index] <;> omega

/-- **A period starts where it is said to:** the days from there on are those of the period and of
later ones. -/
theorem le_iff_index {d first : Date} {g : Grain} (h : d.startOf? g = some first) (e : Date) :
    first ≤ e ↔ d.index g ≤ e.index g := by
  have hmonth : 1 ≤ d.month ∧ d.month ≤ 12 := d.month_bounds
  have hmonth' : 1 ≤ e.month ∧ e.month ≤ 12 := e.month_bounds
  have hday : 1 ≤ e.civil.day := e.day_bounds.1
  -- from the first of a month on: it is enough to compare years and months
  have hfirst : ∀ m, ofCivil? d.year m 1 = some first →
      (first ≤ e ↔ d.year < e.year ∨ d.year = e.year ∧ m ≤ e.month) := by
    intro m hm
    have hcivil := ofCivil?_eq_some.1 hm
    rw [le_iff_civil, hcivil]
    unfold year month at *
    dsimp only
    omega
  cases g with
  | day =>
    cases h
    exact Iff.rfl
  | week =>
    have hnumber := addDays?_eq_some.1 h
    change first.number ≤ e.number ↔ _
    dsimp only [index, sinceMonday] at *
    omega
  | month =>
    rw [hfirst _ h]
    dsimp only [index]
    omega
  | quarter =>
    rw [hfirst _ h]
    dsimp only [index, quarterMonth]
    omega
  | year =>
    rw [hfirst _ h]
    dsimp only [index]
    omega

end Date

end SemanticLayer
