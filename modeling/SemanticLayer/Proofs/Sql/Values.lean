import Mathlib
import SemanticLayer.Calendar.Date

/-
# Values, and how a database treats them

A column holds numbers, texts, days, truth values, values of other kinds, or
nulls.  Numbers are exact.  An aggregate looks at the values of a group that are
not null:

| aggregate | none | some |
| --- | --- | --- |
| `SUM` | null | the sum of the numbers |
| `AVG` | null | the mean of the numbers |
| `COUNT` | 0 | how many there are |

The order in which a group has its values, and the nulls among them, make no
difference (`Value.numbers_perm`).  What SQL leaves to a database is its `Engine`:
the days of values, the reading of literals, and the order of values.
-/

namespace SemanticLayer.Sql

/-- What stands in a column of a row. -/
inductive Value where
  | null
  | truth (holds : Bool)
  | number (q : ℚ)
  | text (s : String)
  | day (d : Date)
  /-- A value of another kind, by its spelling. -/
  | other (kind spelling : String)
deriving DecidableEq

namespace Value

/-! ### Aggregates -/

def number? : Value → Option ℚ
  | number q => some q
  | _ => none

/-- The numbers among values. -/
def numbers (vs : List Value) : List ℚ := vs.filterMap number?

/-- The values that are not null. -/
def present (vs : List Value) : List Value := vs.filter (· ≠ null)

/-- `SUM`. -/
def sum (vs : List Value) : Value := if numbers vs = [] then null else number (numbers vs).sum

/-- `AVG`. -/
def average (vs : List Value) : Value :=
  if numbers vs = [] then null else number ((numbers vs).sum / (numbers vs).length)

/-- `COUNT`. -/
def count (vs : List Value) : Value := number (present vs).length

/-- Nulls are no numbers. -/
theorem numbers_present (vs : List Value) : numbers (present vs) = numbers vs := by
  rw [numbers, present, List.filterMap_filter]
  refine List.filterMap_congr fun v _ => ?_
  cases v <;> rfl

section Congruence

variable {vs ws : List Value} (h : (present vs).Perm (present ws))

include h

/-- **The numbers are the same in every order,** whatever nulls there are. -/
theorem numbers_perm : (numbers vs).Perm (numbers ws) := by
  rw [← numbers_present vs, ← numbers_present ws]
  exact h.filterMap number?

/-- There is a number among the ones exactly when there is one among the others. -/
theorem numbers_eq_nil_congr : numbers vs = [] ↔ numbers ws = [] :=
  ⟨fun hv => List.nil_perm.1 (hv ▸ numbers_perm h), fun hw => List.perm_nil.1 (hw ▸ numbers_perm h)⟩

/-- **A mean takes the numbers as they come.** -/
theorem average_congr : average vs = average ws := by
  simp only [average, numbers_eq_nil_congr h, (numbers_perm h).sum_eq, (numbers_perm h).length_eq]

theorem count_congr : count vs = count ws := by
  rw [count, count, h.length_eq]

end Congruence

/-! ### Conditions -/

/-- `a = b`, unknown beside a null. -/
def equals (a b : Value) : Value := if a = null ∨ b = null then null else truth (a = b)

/-- `a AND b`. -/
def both : Value → Value → Value
  | truth true, truth true => truth true
  | truth false, _ => truth false
  | _, truth false => truth false
  | _, _ => null

/-- `v IN (…)`: whether some comparison holds, unknown if none does and one is unknown. -/
def among (v : Value) (vs : List Value) : Value :=
  if truth true ∈ vs.map v.equals then truth true
  else if null ∈ vs.map v.equals then null
  else truth false

/-- A condition, or its negation. -/
def negated (negate : Bool) : Value → Value
  | truth b => truth (b ^^ negate)
  | _ => null

/-- `a / b` of numbers that are not integers; there is no quotient by zero. -/
def quotient : Value → Value → Value
  | number a, number b => if b = 0 then null else number (a / b)
  | _, _ => null

@[simp] theorem equals_eq_true {a b : Value} :
    a.equals b = truth true ↔ a ≠ null ∧ a = b := by
  unfold equals
  split
  · rename_i h
    simp only [reduceCtorEq, false_iff, not_and]
    rintro ha rfl
    exact h.elim ha ha
  · rename_i h
    rw [not_or] at h
    simp [h.1]

@[simp] theorem both_eq_true {a b : Value} :
    a.both b = truth true ↔ a = truth true ∧ b = truth true := by
  unfold both
  split <;> simp_all

@[simp] theorem among_eq_true {v : Value} {vs : List Value} :
    v.among vs = truth true ↔ v ∈ vs ∧ v ≠ null := by
  unfold among
  split
  · rename_i h
    simpa using h
  · rename_i h
    have hnot : ¬ (v ∈ vs ∧ v ≠ null) := by simpa using h
    split <;> simpa using hnot

@[simp] theorem negated_false_eq_true {v : Value} :
    negated false v = truth true ↔ v = truth true := by
  cases v <;> simp [negated]

end Value

/-! ### Databases -/

/-- What a database decides about its values. -/
structure Engine where
  /-- The day of a value, if a cast finds one. -/
  day? : Value → Option Date
  /-- A text beside a value, read as a value of the same kind. -/
  read : Value → String → Value
  /-- Whether a value stands before another, or beside it. -/
  le : Value → Value → Bool
  day?_null : day? .null = none
  day?_day : ∀ d, day? (.day d) = some d
  read_text : ∀ s t, read (.text s) t = .text t
  le_day : ∀ a b, le (.day a) (.day b) = decide (a ≤ b)
  le_trans : ∀ a b c, le a b = true → le b c = true → le a c = true
  le_total : ∀ a b, (le a b || le b a) = true

/-- Rows below the names of their columns. -/
structure Table where
  columns : List String
  rows : List (List Value)

/-- The tables of a database by their names, the parts of a name between dots apart. -/
abbrev Tables := List String → Table

/-- The value of a list that has one. -/
def theOnly : List Value → Value
  | [v] => v
  | _ => .null

theorem theOnly_eq_null {vs : List Value} (h : ∀ v ∈ vs, v = .null) : theOnly vs = .null := by
  match vs with
  | [] => rfl
  | [v] => exact h v List.mem_cons_self
  | _ :: _ :: _ => rfl

/-- The value of a row in a column; a name that two columns have names none. -/
def valueAt (columns : List String) (row : List Value) (column : String) : Value :=
  theOnly (((columns.zip row).filter (·.1 = column)).map Prod.snd)

/-- Nulls stay nulls. -/
theorem valueAt_nulls (columns : List String) (column : String) :
    valueAt columns (columns.map fun _ => .null) column = .null := by
  have hnull : ∀ v ∈ ((columns.zip (columns.map fun _ => Value.null)).filter
      (·.1 = column)).map Prod.snd, v = .null := by
    intro v hv
    obtain ⟨p, hp, rfl⟩ := List.mem_map.1 hv
    obtain ⟨_, -, heq⟩ := List.mem_map.1 (List.of_mem_zip (List.mem_filter.1 hp).1).2
    exact heq.symm
  exact theOnly_eq_null hnull

/-- The value of a row of a table in a column. -/
def Table.cell (t : Table) (row : List Value) (column : String) : Value :=
  valueAt t.columns row column

/-- No two rows of a table have one value in a column, nulls aside. -/
def Table.IsKey (t : Table) (column : String) : Prop :=
  (Value.present (t.rows.map (t.cell · column))).Nodup

/-- **A key finds at most one row.** -/
theorem Table.IsKey.length_le {t : Table} {column : String} (h : t.IsKey column) {v : Value}
    (hv : v ≠ .null) : (t.rows.filter fun row => t.cell row column = v).length ≤ 1 := by
  have hcount := List.nodup_iff_count_le_one.1 h v
  rw [Value.present, List.count_filter (by simpa using hv), List.count, List.countP_map] at hcount
  rw [← List.countP_eq_length_filter]
  exact hcount.trans' (Nat.le_of_eq (List.countP_congr fun row _ => by simp))

/-- **Columns with different names keep their values.** -/
theorem valueAt_of_mem {columns : List String} {row : List Value} {column : String} {v : Value}
    (hcolumns : columns.Nodup) (h : (column, v) ∈ columns.zip row) :
    valueAt columns row column = v := by
  have hfilter : (columns.zip row).filter (·.1 = column) = [(column, v)] := by
    induction columns generalizing row with
    | nil => simp at h
    | cons c columns ih =>
      cases row with
      | nil => simp at h
      | cons w row =>
        obtain ⟨hc, hrest⟩ := List.nodup_cons.1 hcolumns
        rw [List.zip_cons_cons] at h ⊢
        rcases List.mem_cons.1 h with heq | hmem
        · cases heq
          have hnone : (columns.zip row).filter (·.1 = column) = [] := by
            rw [List.filter_eq_nil_iff]
            rintro ⟨d, w⟩ hd
            have hdc := (List.of_mem_zip hd).1
            simpa using fun hdc' : d = column => hc (hdc' ▸ hdc)
          rw [List.filter_cons_of_pos (by simp), hnone]
        · have hne : c ≠ column := fun heq => hc (heq ▸ (List.of_mem_zip hmem).1)
          rw [List.filter_cons_of_neg (by simpa using hne), ih hrest hmem]
  rw [valueAt, hfilter]
  rfl

theorem mem_zip_map {α β : Type} {f : α → β} {x : α} {xs : List α} (h : x ∈ xs) :
    (x, f x) ∈ xs.zip (xs.map f) := by
  induction xs with
  | nil => cases h
  | cons y xs ih =>
    rw [List.map_cons, List.zip_cons_cons]
    rcases List.mem_cons.1 h with rfl | h
    · exact List.mem_cons_self
    · exact List.mem_cons_of_mem _ (ih h)

/-- A row is made up of its values. -/
theorem map_valueAt {columns : List String} {row : List Value} (hcolumns : columns.Nodup)
    (hlength : columns.length = row.length) : columns.map (valueAt columns row) = row := by
  refine List.ext_getElem (by simpa using hlength) fun i hi hi' => ?_
  rw [List.getElem_map]
  refine valueAt_of_mem hcolumns ?_
  have hzip : i < (columns.zip row).length := by
    simpa using ⟨by simpa using hi, hi'⟩
  have hmem := List.getElem_mem hzip
  rwa [List.getElem_zip] at hmem

end SemanticLayer.Sql
