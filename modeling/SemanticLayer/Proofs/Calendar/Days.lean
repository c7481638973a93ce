import SemanticLayer.Calendar.Spine
import SemanticLayer.Proofs.Calendar.Periods
import SemanticLayer.Proofs.Outcome

/-
# The days of a horizon

Rows are made of the days that have a day behind them in the calendar:

| horizon | its spine |
| --- | --- |
| starts before the first Monday | there is none (`Spine.ofHorizon_eq_broken`) |
| ends before the last day of the calendar | a row for each day |
| ends on the last day of the calendar | a row for each day but the last |

So a range within a horizon has a row for each of its days
(`Spine.exists_between`), unless it ends on the last day of the calendar
(`Spine.between_eq_broken`).
-/

namespace SemanticLayer.Spine

variable {start stop : Date} {s : Spine}

theorem addDays?_one {d : Date} (h : d.number < Date.last.number) :
    ∃ next, d.addDays? 1 = some next ∧ next.number = d.number + 1 := by
  have hin : Calendar.firstDay ≤ d.number + 1 ∧ d.number + 1 ≤ Calendar.lastDay := by
    have hlast : Date.last.number = Calendar.lastDay := rfl
    have := d.inCalendar
    omega
  exact ⟨⟨d.number + 1, hin⟩, dif_pos hin, rfl⟩

/-- The calendar has no day behind its last. -/
theorem addDays?_one_last {d : Date} (h : ¬ d.number < Date.last.number) : d.addDays? 1 = none := by
  have hlast : Date.last.number = Calendar.lastDay := rfl
  have hout : ¬ (Calendar.firstDay ≤ d.number + 1 ∧ d.number + 1 ≤ Calendar.lastDay) := by
    have := d.inCalendar
    omega
  exact dif_neg hout

/-- **One day of the list:** within the horizon and before the last day of the calendar, the days go
on with the next one; otherwise they end. -/
theorem daysFrom_succ (stop : Date) (fuel : Nat) (d : Date) :
    (d.number ≤ stop.number ∧ d.number < Date.last.number ∧ ∃ next : Date,
        next.number = d.number + 1 ∧ daysFrom stop (fuel + 1) d = d :: daysFrom stop fuel next) ∨
      (stop.number < d.number ∨ ¬ d.number < Date.last.number) ∧
        daysFrom stop (fuel + 1) d = [] := by
  rw [daysFrom]
  by_cases hd : d ≤ stop
  · rw [if_pos hd]
    by_cases hlast : d.number < Date.last.number
    · obtain ⟨next, hnext, hnumber⟩ := addDays?_one hlast
      rw [hnext]
      exact .inl ⟨hd, hlast, next, hnumber, rfl⟩
    · rw [addDays?_one_last hlast]
      exact .inr ⟨.inr hlast, rfl⟩
  · rw [if_neg hd]
    exact .inr ⟨.inl (Int.not_le.1 hd), rfl⟩

/-- How many days a horizon has that have a day behind them. -/
def rowCount (start stop : Date) : Nat :=
  (min stop.number (Date.last.number - 1) - start.number + 1).toNat

/-- **The days are counted** up to the last one that has a day behind it. -/
theorem length_daysFrom (stop : Date) {fuel : Nat} {d : Date}
    (hfuel : (stop.number - d.number + 1).toNat ≤ fuel) :
    (daysFrom stop fuel d).length = rowCount d stop := by
  induction fuel generalizing d with
  | zero =>
    rw [daysFrom, List.length_nil, rowCount]
    omega
  | succ fuel ih =>
    rcases daysFrom_succ stop fuel d with ⟨hd, hlast, next, hnumber, hdays⟩ | ⟨hend, hdays⟩
    · rw [hdays, List.length_cons, ih (by omega), rowCount, rowCount, hnumber]
      omega
    · rw [hdays, List.length_nil, rowCount]
      omega

/-- The days go on from the first. -/
theorem le_of_mem_daysFrom {fuel : Nat} {d e : Date} (h : e ∈ daysFrom stop fuel d) : d ≤ e := by
  induction fuel generalizing d with
  | zero => cases h
  | succ fuel ih =>
    rcases daysFrom_succ stop fuel d with ⟨-, -, next, hnumber, hdays⟩ | ⟨-, hdays⟩
    · rw [hdays] at h
      rcases List.mem_cons.1 h with rfl | h
      · exact Int.le_refl _
      · have hle : next.number ≤ e.number := ih h
        have hde : d.number ≤ e.number := by omega
        exact hde
    · rw [hdays] at h
      cases h

/-- A horizon that does not start with the last day of the calendar gets a row for its first day. -/
theorem mem_days_start (h : start ≤ stop) (hlast : start < Date.last) :
    start ∈ days start stop := by
  have hle : start.number ≤ stop.number := h
  have hlt : start.number < Date.last.number := hlast
  obtain ⟨fuel, hfuel⟩ : ∃ fuel, (stop.number - start.number + 1).toNat = fuel + 1 :=
    ⟨(stop.number - start.number).toNat, by omega⟩
  rw [days, hfuel]
  rcases daysFrom_succ stop fuel start with ⟨-, -, next, -, hdays⟩ | ⟨hend, -⟩
  · rw [hdays]
    exact List.mem_cons_self
  · omega

/-- A list of partial results is as long as what they are results of, and there is one when each
element has a result. -/
theorem exists_mapM_iff {α β : Type} {f : α → Option β} {xs : List α} :
    (∃ ys, xs.mapM f = some ys) ↔ ∀ x ∈ xs, ∃ y, f x = some y := by
  induction xs with
  | nil => exact ⟨fun _ x hx => absurd hx List.not_mem_nil, fun _ => ⟨[], rfl⟩⟩
  | cons x xs ih =>
    rw [List.forall_mem_cons, ← ih, List.mapM_cons]
    constructor
    · rintro ⟨ys, h⟩
      obtain ⟨y, hy, h⟩ := Option.bind_eq_some_iff.1 h
      obtain ⟨zs, hzs, -⟩ := Option.bind_eq_some_iff.1 h
      exact ⟨⟨y, hy⟩, zs, hzs⟩
    · rintro ⟨⟨y, hy⟩, zs, hzs⟩
      exact ⟨y :: zs, by rw [hy, hzs]; rfl⟩

theorem length_of_mapM {α β : Type} {f : α → Option β} {xs : List α} {ys : List β}
    (h : xs.mapM f = some ys) : ys.length = xs.length := by
  induction xs generalizing ys with
  | nil =>
    cases h
    rfl
  | cons x xs ih =>
    rw [List.mapM_cons] at h
    obtain ⟨y, -, h⟩ := Option.bind_eq_some_iff.1 h
    obtain ⟨zs, hzs, h⟩ := Option.bind_eq_some_iff.1 h
    cases h
    rw [List.length_cons, List.length_cons, ih hzs]

/-! ### Spines -/

/-- **A horizon from the first Monday on has a spine.** -/
theorem exists_ofHorizon (h : start ≤ stop) (hmonday : Date.firstMonday ≤ start) :
    ∃ s, ofHorizon start stop = .ok s := by
  have hordered : ¬ stop < start := Int.not_lt.2 h
  have hrows : ∀ d ∈ days start stop, ∃ row, DayRow.ofDay? d = some row := by
    intro d hd
    have hle : start ≤ d := le_of_mem_daysFrom hd
    exact DayRow.exists_ofDay?_iff.2 (Int.le_trans hmonday hle)
  obtain ⟨rows, hrows⟩ := exists_mapM_iff.2 hrows
  rw [ofHorizon, if_neg hordered, hrows]
  exact ⟨_, rfl⟩

/-- **A horizon that starts before the first Monday has none.** -/
theorem ofHorizon_eq_broken (h : start ≤ stop) (hmonday : start < Date.firstMonday) :
    ofHorizon start stop = .error (.broken .offCalendar) := by
  have hordered : ¬ stop < start := Int.not_lt.2 h
  have hlast : start < Date.last := Int.lt_trans hmonday (by decide)
  have hnone : (days start stop).mapM DayRow.ofDay? = none := by
    cases hrows : (days start stop).mapM DayRow.ofDay? with
    | none => rfl
    | some rows =>
      obtain ⟨row, hrow⟩ := exists_mapM_iff.1 ⟨rows, hrows⟩ start (mem_days_start h hlast)
      exact absurd (DayRow.exists_ofDay?_iff.1 ⟨row, hrow⟩) (Int.not_le.2 hmonday)
  rw [ofHorizon, if_neg hordered, hnone]

/-- **The rows of a spine are counted.** -/
theorem length_ofHorizon (h : ofHorizon start stop = .ok s) :
    s.start = start ∧ s.stop = stop ∧ s.length = rowCount start stop := by
  unfold ofHorizon at h
  split at h
  · cases h
  · split at h
    · rename_i rows hrows
      cases h
      refine ⟨rfl, rfl, ?_⟩
      rw [length, length_of_mapM hrows, days, length_daysFrom stop (Nat.le_refl _)]
    · cases h

/-! ### Ranges -/

theorem check_eq_ok {d : Date} : s.check d = .ok () ↔ s.contains d = true := by
  unfold check
  split <;> simp_all

theorem contains_iff {d : Date} : s.contains d = true ↔ s.start ≤ d ∧ d ≤ s.stop := by
  unfold contains
  exact decide_eq_true_iff

/-- **A range passes** when it is ordered and within the horizon. -/
theorem checkRange_eq_ok {a b : Date} :
    s.checkRange a b = .ok () ↔ a ≤ b ∧ s.contains a = true ∧ s.contains b = true := by
  unfold checkRange
  by_cases hlt : b < a
  · rw [if_pos hlt]
    exact ⟨nofun, fun ⟨hab, _, _⟩ => absurd hlt (Int.not_lt.2 hab)⟩
  · have hab : a ≤ b := Int.not_lt.1 hlt
    rw [if_neg hlt]
    constructor
    · intro h
      obtain ⟨_, ha, hb⟩ := bind_eq_ok.1 h
      exact ⟨hab, check_eq_ok.1 ha, check_eq_ok.1 hb⟩
    · rintro ⟨-, ha, hb⟩
      exact bind_eq_ok.2 ⟨(), check_eq_ok.2 ha, check_eq_ok.2 hb⟩

section

variable (h : ofHorizon start stop = .ok s) {a b : Date} (hrange : s.checkRange a b = .ok ())
include h hrange

/-- **Every range within the horizon has a row for each of its days** if the calendar has a day
behind it. -/
theorem exists_between (hlast : b < Date.last) :
    ∃ rows, s.between a b = .ok rows ∧ (rows.length : Int) = b.number - a.number + 1 := by
  obtain ⟨rfl, rfl, hlength⟩ := length_ofHorizon h
  obtain ⟨hab, ha, hb⟩ := checkRange_eq_ok.1 hrange
  have hab' : a.number ≤ b.number := hab
  have hstart : s.start.number ≤ a.number := (contains_iff.1 ha).1
  have hstop : b.number ≤ s.stop.number := (contains_iff.1 hb).2
  have hlast' : b.number < Date.last.number := hlast
  have hrows : s.rows.length = rowCount s.start s.stop := hlength
  have hoffset : s.offset b < s.length := by
    rw [hlength, offset, rowCount]
    omega
  refine ⟨_, by rw [between, hrange]; exact if_pos hoffset, ?_⟩
  rw [List.length_take, List.length_drop, hrows]
  simp only [offset, rowCount]
  omega

/-- **A range that ends on the last day of the calendar runs past the rows.** -/
theorem between_eq_broken (hlast : ¬ b < Date.last) :
    s.between a b = .error (.broken .offCalendar) := by
  obtain ⟨rfl, rfl, hlength⟩ := length_ofHorizon h
  obtain ⟨-, -, hb⟩ := checkRange_eq_ok.1 hrange
  have hstart : s.start.number ≤ b.number := (contains_iff.1 hb).1
  have hlast' : ¬ b.number < Date.last.number := hlast
  have hoffset : ¬ s.offset b < s.length := by
    rw [hlength, offset, rowCount]
    omega
  rw [between, hrange]
  exact if_neg hoffset

end

end SemanticLayer.Spine
