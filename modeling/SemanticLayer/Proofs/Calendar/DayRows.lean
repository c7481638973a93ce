import SemanticLayer.Proofs.Calendar.Days
import SemanticLayer.Proofs.Calendar.Months

/-
# The rows of a range

What a spine hands out for a range are the rows of its days, one for each
(`Spine.dayRows_of_between`) and in ascending order
(`Spine.daysInOrder_of_between`), and the row of a day holds the starts of the
periods that hold the day.
-/

namespace SemanticLayer

/-- The row of a day holds the starts of its periods. -/
theorem DayRow.startOf?_of_ofDay? {d : Date} {row : DayRow} (h : ofDay? d = some row) :
    row.day = d ∧ ∀ g, d.startOf? g = some (row.get g) := by
  unfold ofDay? at h
  obtain ⟨week, hweek, h⟩ := Option.bind_eq_some_iff.1 h
  obtain ⟨month, hmonth, h⟩ := Option.bind_eq_some_iff.1 h
  obtain ⟨quarter, hquarter, h⟩ := Option.bind_eq_some_iff.1 h
  obtain ⟨year, hyear, h⟩ := Option.bind_eq_some_iff.1 h
  cases h
  refine ⟨rfl, fun g => ?_⟩
  cases g with
  | day => rfl
  | week => exact hweek
  | month => exact hmonth
  | quarter => exact hquarter
  | year => exact hyear

/-- One row for each day from `a` to `b`. -/
structure DayRows (rows : List DayRow) (a b : Date) : Prop where
  nodup : (rows.map DayRow.day).Nodup
  mem_iff : ∀ d, d ∈ rows.map DayRow.day ↔ a ≤ d ∧ d ≤ b
  startOf? : ∀ row ∈ rows, ∀ g, row.day.startOf? g = some (row.get g)

/-- The rows of the days from `a` to `b` in their order. -/
structure DaysInOrder (rows : List DayRow) (a b : Date) : Prop where
  numbers : rows.map (fun row => row.day.number) =
    (List.range (b.number - a.number + 1).toNat).map fun (i : Nat) => a.number + i
  startOf? : ∀ row ∈ rows, ∀ g, row.day.startOf? g = some (row.get g)
  /-- The days from the start of a period on are those of the period and of later ones. -/
  first : ∀ row ∈ rows, ∀ g d, row.get g ≤ d ↔ row.day.index g ≤ d.index g

namespace Spine

variable {start stop : Date} {s : Spine}

/-- The days of a horizon follow one another. -/
theorem number_daysFrom {fuel : Nat} {d : Date} (i : Nat)
    (hi : i < (daysFrom stop fuel d).length) :
    (daysFrom stop fuel d)[i].number = d.number + i := by
  induction fuel generalizing d i with
  | zero => cases hi
  | succ fuel ih =>
    rcases daysFrom_succ stop fuel d with ⟨-, -, next, hnumber, hstep⟩ | ⟨-, hstep⟩
    · simp only [hstep] at hi ⊢
      cases i with
      | zero => simp
      | succ i =>
        rw [List.getElem_cons_succ, ih i (by simpa using hi), hnumber]
        omega
    · simp [hstep] at hi

/-- Partial results stand where what they are results of stands. -/
theorem getElem_of_mapM {α β : Type} {f : α → Option β} {xs : List α} {ys : List β}
    (h : xs.mapM f = some ys) (i : Nat) (hi : i < xs.length) (hi' : i < ys.length) :
    f xs[i] = some ys[i] := by
  induction xs generalizing ys i with
  | nil => cases hi
  | cons x xs ih =>
    rw [List.mapM_cons] at h
    obtain ⟨y, hy, h⟩ := Option.bind_eq_some_iff.1 h
    obtain ⟨zs, hzs, h⟩ := Option.bind_eq_some_iff.1 h
    cases h
    cases i with
    | zero => exact hy
    | succ i => exact ih hzs i (by simpa using hi) (by simpa using hi')

/-- The rows of a spine are those of the days from its start on. -/
theorem ofDay?_ofHorizon (h : ofHorizon start stop = .ok s) (i : Nat) (hi : i < s.rows.length) :
    ∃ d, d.number = start.number + i ∧ DayRow.ofDay? d = some s.rows[i] := by
  unfold ofHorizon at h
  split at h
  · cases h
  · split at h
    · rename_i rows hrows
      cases h
      have hdays : i < (days start stop).length := length_of_mapM hrows ▸ hi
      exact ⟨_, number_daysFrom i hdays, getElem_of_mapM hrows i hdays hi⟩
    · cases h

section

variable (h : ofHorizon start stop = .ok s) {a b : Date} {rows : List DayRow}
  (hrange : s.checkRange a b = .ok ()) (hlast : b < Date.last) (hrows : s.between a b = .ok rows)
include h hrange hlast hrows

/-- **The rows of a range are those of its days,** one after the other. -/
theorem ofDay?_between : (rows.length : Int) = b.number - a.number + 1 ∧
    ∀ i (hi : i < rows.length), ∃ d, d.number = a.number + i ∧ DayRow.ofDay? d = some rows[i] := by
  obtain ⟨rows', hrows', hlength⟩ := exists_between h hrange hlast
  obtain rfl : rows' = rows := Except.ok.inj (hrows'.symm.trans hrows)
  refine ⟨hlength, fun i hi => ?_⟩
  obtain ⟨-, ha, -⟩ := checkRange_eq_ok.1 hrange
  have hstart : s.start = start := (length_ofHorizon h).1
  have hle : start.number ≤ a.number := hstart ▸ (contains_iff.1 ha).1
  have htaken : rows' = (s.rows.drop (s.offset a)).take (s.offset b + 1 - s.offset a) := by
    unfold between at hrows
    rw [hrange] at hrows
    split at hrows
    · cases hrows
    · split at hrows
      · exact (Except.ok.inj hrows).symm
      · cases hrows
  have hi' : s.offset a + i < s.rows.length := by
    rw [htaken, List.length_take, List.length_drop] at hi
    omega
  obtain ⟨d, hd, hrow⟩ := ofDay?_ofHorizon h (s.offset a + i) hi'
  refine ⟨d, ?_, ?_⟩
  · rw [hd, offset, hstart]
    omega
  · rw [hrow]
    simp only [htaken, List.getElem_take, List.getElem_drop]

/-- The days of a range are numbered from its start on. -/
theorem number_between (i : Nat) (hi : i < rows.length) : rows[i].day.number = a.number + i := by
  obtain ⟨d, hd, hrow⟩ := (ofDay?_between h hrange hlast hrows).2 i hi
  rw [(DayRow.startOf?_of_ofDay? hrow).1, hd]

/-- A row of a range holds the starts of the periods of its day. -/
theorem startOf?_between {row : DayRow} (hrow : row ∈ rows) (g : Grain) :
    row.day.startOf? g = some (row.get g) := by
  obtain ⟨i, hi, rfl⟩ := List.getElem_of_mem hrow
  obtain ⟨d, -, hd⟩ := (ofDay?_between h hrange hlast hrows).2 i hi
  obtain ⟨hsame, hstarts⟩ := DayRow.startOf?_of_ofDay? hd
  rw [hsame]
  exact hstarts g

/-- **A range has one row for each of its days.** -/
theorem dayRows_of_between : DayRows rows a b := by
  obtain ⟨hlength, -⟩ := ofDay?_between h hrange hlast hrows
  have hordered : a.number ≤ b.number := (checkRange_eq_ok.1 hrange).1
  have hnumber := number_between h hrange hlast hrows
  constructor
  · refine List.pairwise_iff_getElem.2 fun i j hi hj hij heq => ?_
    simp only [List.getElem_map] at heq
    have hnumbers := congrArg Date.number heq
    rw [hnumber i (by simpa using hi), hnumber j (by simpa using hj)] at hnumbers
    omega
  · intro d
    constructor
    · intro hd
      obtain ⟨row, hrow, rfl⟩ := List.mem_map.1 hd
      obtain ⟨i, hi, rfl⟩ := List.getElem_of_mem hrow
      have hi' := hnumber i hi
      exact ⟨show a.number ≤ _ by omega, show _ ≤ b.number by omega⟩
    · rintro ⟨had, hdb⟩
      have had' : a.number ≤ d.number := had
      have hdb' : d.number ≤ b.number := hdb
      have hi : (d.number - a.number).toNat < rows.length := by omega
      have hi' := hnumber _ hi
      exact List.mem_map.2 ⟨_, List.getElem_mem hi, Date.ext (by omega)⟩
  · exact fun row hrow => startOf?_between h hrange hlast hrows hrow

end

/-- **A range with rows lists its days in ascending order,** each once. -/
theorem daysInOrder_of_between (h : ofHorizon start stop = .ok s) {a b : Date}
    {rows : List DayRow} (hrows : s.between a b = .ok rows) : DaysInOrder rows a b := by
  have hrange : s.checkRange a b = .ok () := by
    unfold between at hrows
    split at hrows
    · cases hrows
    · assumption
  have hlast : b < Date.last := by
    by_contra hlast
    rw [between_eq_broken h hrange hlast] at hrows
    cases hrows
  have hstarts : ∀ row ∈ rows, ∀ g, row.day.startOf? g = some (row.get g) := fun row hrow =>
    startOf?_between h hrange hlast hrows hrow
  refine ⟨List.ext_getElem ?_ fun i hi _ => ?_, hstarts, fun row hrow g =>
    Date.le_iff_index (hstarts row hrow g)⟩
  · have hlength := (ofDay?_between h hrange hlast hrows).1
    rw [List.length_map, List.length_map, List.length_range]
    omega
  · rw [List.getElem_map, List.getElem_map, List.getElem_range]
    exact number_between h hrange hlast hrows i (by simpa using hi)

end Spine

end SemanticLayer
