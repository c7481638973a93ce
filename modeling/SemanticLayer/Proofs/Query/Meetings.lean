import SemanticLayer.Proofs.Calendar.DayRows
import SemanticLayer.Proofs.Query.GridRows

/-
# Facts on the grid

A counted row meets a place of the grid when it has the place's day and
combination.  It has one day and one combination, both are on the grid, and no
two places agree in both: so every counted row meets exactly one place, and the
rows that meet the places of a period and a combination are those that the query
counts there (`MetricQuery.perm_countedIn`).  In the join of the grid and the
facts, a place that no row meets stands beside nulls, which no aggregate sees.
-/

namespace SemanticLayer

open Sql

/-! ### Elements that pass one of several tests -/

/-- Elements that pass one of two tests, and never both. -/
theorem perm_filter_or {α : Type} {p q : α → Bool} {xs : List α}
    (h : ∀ x ∈ xs, p x = true → q x = false) :
    (xs.filter p ++ xs.filter q).Perm (xs.filter fun x => p x || q x) := by
  have hsplit := List.filter_append_perm p (xs.filter fun x => p x || q x)
  have hfirst : (xs.filter fun x => p x || q x).filter p = xs.filter p := by
    rw [List.filter_filter]
    exact List.filter_congr fun x _ => by cases p x <;> rfl
  have hsecond : ((xs.filter fun x => p x || q x).filter fun x => !p x) = xs.filter q := by
    rw [List.filter_filter]
    refine List.filter_congr fun x hx => ?_
    cases hp : p x with
    | true => rw [h x hx hp]; rfl
    | false => rfl
  rwa [hfirst, hsecond] at hsplit

/-- **Elements that each pass at most one test** come once, whichever they pass. -/
theorem perm_flatMap_filter {α β : Type} {us : List α} {rs : List β} {p : α → β → Bool}
    (hus : us.Nodup)
    (hone : ∀ r ∈ rs, ∀ u ∈ us, ∀ u' ∈ us, p u r = true → p u' r = true → u = u') :
    (us.flatMap fun u => rs.filter (p u)).Perm (rs.filter fun r => us.any fun u => p u r) := by
  induction us with
  | nil => simp
  | cons u us ih =>
    obtain ⟨hu, hus'⟩ := List.nodup_cons.1 hus
    have hrest := ih hus' fun r hr u' hu' u'' hu'' =>
      hone r hr u' (List.mem_cons_of_mem _ hu') u'' (List.mem_cons_of_mem _ hu'')
    have hapart : ∀ r ∈ rs, p u r = true → (us.any fun u' => p u' r) = false := by
      intro r hr hpu
      refine Bool.eq_false_iff.2 fun hany => ?_
      obtain ⟨u', hu', hpu'⟩ := List.any_eq_true.1 hany
      obtain rfl := hone r hr u List.mem_cons_self u' (List.mem_cons_of_mem _ hu') hpu hpu'
      exact hu hu'
    rw [List.flatMap_cons]
    exact (hrest.append_left _).trans (perm_filter_or hapart)

/-! ### Rows and places -/

/-- A place of the grid, and a row that meets it, if it is met. -/
abbrev Meeting := Compiler.Place × Option (List Value)

namespace MetricQuery

variable (q : MetricQuery) (c : Catalog) (db : Engine) (tables : Tables)

/-- The period and the combination of a place. -/
def keyOf (u : Compiler.Place) : Date × List Value := (u.1.get q.grain, u.2)

/-- A row meets the place of its day and its combination. -/
def meets (u : Compiler.Place) (row : List Value) : Bool :=
  c.dayOf db tables row = some u.1.day ∧ q.combination c tables row = u.2

/-- The counted rows that meet a place. -/
def guests (u : Compiler.Place) : List (List Value) :=
  (q.counted c db tables).filter (q.meets c db tables u)

/-- The meetings at a place: with each of its rows, or with none. -/
def meetingsAt (u : Compiler.Place) : List Meeting :=
  if q.guests c db tables u = [] then [(u, none)]
  else (q.guests c db tables u).map fun row => (u, some row)

/-- The meetings on the grid. -/
def meetings (rows : List DayRow) : List Meeting :=
  (rows ×ˢ q.combinations c db tables).flatMap (q.meetingsAt c db tables)

/-- A row meets a place with a key. -/
def meetsUnder (key : Date × List Value) (u : Compiler.Place) (row : List Value) : Bool :=
  q.keyOf u = key ∧ q.meets c db tables u row

variable {q c db tables}

theorem meetsUnder_eq_true {key : Date × List Value} {u : Compiler.Place} {row : List Value} :
    q.meetsUnder c db tables key u row = true ↔
      q.keyOf u = key ∧ c.dayOf db tables row = some u.1.day ∧ q.combination c tables row = u.2 := by
  simp only [meetsUnder, meets, decide_eq_true_eq]

theorem meetingsAt_ne_nil (u : Compiler.Place) : q.meetingsAt c db tables u ≠ [] := by
  unfold meetingsAt
  split
  · exact List.cons_ne_nil _ _
  · rename_i h
    simpa using h

theorem fst_of_mem_meetingsAt {u : Compiler.Place} {x : Meeting}
    (hx : x ∈ q.meetingsAt c db tables u) : x.1 = u := by
  unfold meetingsAt at hx
  split at hx
  · rw [List.mem_singleton.1 hx]
  · obtain ⟨row, -, rfl⟩ := List.mem_map.1 hx
    rfl

/-- The rows of the meetings at a place are its guests. -/
theorem filterMap_meetingsAt (u : Compiler.Place) :
    (q.meetingsAt c db tables u).filterMap Prod.snd = q.guests c db tables u := by
  unfold meetingsAt
  split
  · rename_i h
    rw [h]
    rfl
  · rw [List.filterMap_map]
    exact List.filterMap_some

/-- The rows of the meetings with a key are those that meet a place with it, place by place. -/
theorem filterMap_filter_meetings (rows : List DayRow) (key : Date × List Value) :
    ((q.meetings c db tables rows).filter fun x => q.keyOf x.1 = key).filterMap Prod.snd =
      (rows ×ˢ q.combinations c db tables).flatMap fun u =>
        (q.counted c db tables).filter (q.meetsUnder c db tables key u) := by
  rw [meetings, List.filter_flatMap, List.filterMap_flatMap]
  refine List.flatMap_congr fun u _ => ?_
  by_cases hkey : q.keyOf u = key
  · have hall : ((q.meetingsAt c db tables u).filter fun x => q.keyOf x.1 = key) =
        q.meetingsAt c db tables u := by
      refine List.filter_eq_self.2 fun x hx => ?_
      rw [fst_of_mem_meetingsAt hx, hkey]
      exact decide_eq_true rfl
    rw [hall, filterMap_meetingsAt, guests]
    exact List.filter_congr fun row _ => by simp [meetsUnder, hkey]
  · have hnone : ((q.meetingsAt c db tables u).filter fun x => q.keyOf x.1 = key) = [] := by
      refine List.filter_eq_nil_iff.2 fun x hx => ?_
      rw [fst_of_mem_meetingsAt hx]
      simpa using hkey
    rw [hnone, List.filterMap_nil, eq_comm, List.filter_eq_nil_iff]
    exact fun row _ => by simp [meetsUnder, hkey]

/-- A meeting has a value for each dimension. -/
theorem length_of_mem_meetings {rows : List DayRow} {x : Meeting}
    (hx : x ∈ q.meetings c db tables rows) : q.dimensions.length = x.1.2.length := by
  obtain ⟨u, hu, hxu⟩ := List.mem_flatMap.1 hx
  rw [fst_of_mem_meetingsAt hxu]
  exact (length_of_mem_combinations (List.mem_product.1 hu).2).symm

section

variable {rows : List DayRow} (hrows : DayRows rows q.start q.stop)

include hrows

/-- **The keys of the meetings** are the periods of the range with the combinations. -/
theorem mem_keys {key : Date × List Value} :
    key ∈ (q.meetings c db tables rows).map (fun x => q.keyOf x.1) ↔
      q.Meets key.1 ∧ q.Observed c db tables key.2 := by
  have hperiods : q.Meets key.1 ↔ ∃ row ∈ rows, row.get q.grain = key.1 := by
    constructor
    · rintro ⟨d, hstart, hstop, hperiod⟩
      obtain ⟨row, hrow, rfl⟩ := List.mem_map.1 ((hrows.mem_iff d).2 ⟨hstart, hstop⟩)
      rw [hrows.startOf? row hrow, Option.some.injEq] at hperiod
      exact ⟨row, hrow, hperiod⟩
    · rintro ⟨row, hrow, hperiod⟩
      obtain ⟨hstart, hstop⟩ := (hrows.mem_iff row.day).1 (List.mem_map_of_mem hrow)
      exact ⟨row.day, hstart, hstop, by rw [hrows.startOf? row hrow, hperiod]⟩
  rw [hperiods, ← mem_combinations]
  constructor
  · intro h
    obtain ⟨x, hx, rfl⟩ := List.mem_map.1 h
    obtain ⟨u, hu, hxu⟩ := List.mem_flatMap.1 hx
    obtain rfl := fst_of_mem_meetingsAt hxu
    obtain ⟨hday, hcombination⟩ := List.mem_product.1 hu
    exact ⟨⟨_, hday, rfl⟩, hcombination⟩
  · rintro ⟨⟨row, hrow, hperiod⟩, hcombination⟩
    have hmet : q.meetingsAt c db tables (row, key.2) ≠ [] := meetingsAt_ne_nil _
    obtain ⟨x, hx⟩ := List.exists_mem_of_ne_nil _ hmet
    refine List.mem_map.2 ⟨x, List.mem_flatMap.2 ⟨(row, key.2),
      List.mem_product.2 ⟨hrow, hcombination⟩, hx⟩, ?_⟩
    rw [fst_of_mem_meetingsAt hx, keyOf, hperiod]

/-- **A row meets at most one place,** because its day and its combination leave no other. -/
theorem eq_of_meetsUnder {key : Date × List Value} {row : List Value} {u u' : Compiler.Place}
    (hu : u ∈ rows ×ˢ q.combinations c db tables) (hu' : u' ∈ rows ×ˢ q.combinations c db tables)
    (h : q.meetsUnder c db tables key u row = true)
    (h' : q.meetsUnder c db tables key u' row = true) : u = u' := by
  obtain ⟨-, hday, hcombination⟩ := meetsUnder_eq_true.1 h
  obtain ⟨-, hday', hcombination'⟩ := meetsUnder_eq_true.1 h'
  rw [hday, Option.some.injEq] at hday'
  have hfirst : u.1 = u'.1 :=
    List.inj_on_of_nodup_map hrows.nodup (List.mem_product.1 hu).1 (List.mem_product.1 hu').1 hday'
  exact Prod.ext hfirst (hcombination.symm.trans hcombination')

/-- **A counted row meets a place with the key of its own period and combination,** and with no
other. -/
theorem exists_meetsUnder_iff {key : Date × List Value} {row : List Value}
    (hrow : row ∈ q.counted c db tables) :
    (∃ u ∈ rows ×ˢ q.combinations c db tables, q.meetsUnder c db tables key u row = true) ↔
      q.periodOf c db tables row = some key.1 ∧ q.combination c tables row = key.2 := by
  constructor
  · rintro ⟨u, hu, hmeets⟩
    obtain ⟨rfl, hday, hcombination⟩ := meetsUnder_eq_true.1 hmeets
    refine ⟨?_, hcombination⟩
    rw [periodOf, hday, Option.bind_some, hrows.startOf? _ (List.mem_product.1 hu).1]
    rfl
  · rintro ⟨hperiod, hcombination⟩
    have hcounts := (List.mem_filter.1 hrow).2
    rw [counts, Bool.and_eq_true, Option.any_eq_true] at hcounts
    obtain ⟨⟨d, hd, hrange⟩, -⟩ := hcounts
    obtain ⟨day, hday, rfl⟩ := List.mem_map.1 ((hrows.mem_iff d).2 (of_decide_eq_true hrange))
    have hobserved : q.combination c tables row ∈ q.combinations c db tables :=
      mem_combinations.2 (.inl ⟨row, hrow, rfl⟩)
    rw [periodOf, hd, Option.bind_some, hrows.startOf? day hday, Option.some.injEq] at hperiod
    exact ⟨(day, q.combination c tables row), List.mem_product.2 ⟨hday, hobserved⟩,
      meetsUnder_eq_true.2 ⟨Prod.ext hperiod hcombination, hd, rfl⟩⟩

/-- **No fact is lost or met twice:** the rows of the meetings of a period and a combination are
those that are counted there. -/
theorem perm_countedIn (key : Date × List Value) :
    (((q.meetings c db tables rows).filter fun x => q.keyOf x.1 = key).filterMap Prod.snd).Perm
      (q.countedIn c db tables key) := by
  have hnodup : (rows ×ˢ q.combinations c db tables).Nodup :=
    (hrows.nodup.of_map _).product nodup_combinations
  have hone : ∀ row ∈ q.counted c db tables, ∀ u ∈ rows ×ˢ q.combinations c db tables,
      ∀ u' ∈ rows ×ˢ q.combinations c db tables, q.meetsUnder c db tables key u row = true →
        q.meetsUnder c db tables key u' row = true → u = u' :=
    fun _ _ _ hu _ hu' => eq_of_meetsUnder hrows hu hu'
  rw [filterMap_filter_meetings]
  refine (perm_flatMap_filter hnodup hone).trans (.of_eq ?_)
  refine List.filter_congr fun row hrow => ?_
  rw [Bool.eq_iff_iff, List.any_eq_true, decide_eq_true_eq]
  exact exists_meetsUnder_iff hrows hrow

end

end MetricQuery

namespace Compiler

/-! ### The join of the grid and the facts -/

section

variable (c : Catalog) (db : Engine) (base : Tables) (m : Metric) (q : MetricQuery)

/-- The row of a place on the grid. -/
def gridRow (u : Place) : Joined := Joined.ofRow "grid" (Grain.columns ++ q.dimensions) u.values

/-- The row of a fact, or nulls. -/
def guestRow (row : Option (List Value)) : Joined :=
  Joined.ofRow "facts" (inputColumns m ++ q.dimensions)
    (row.elim ((inputColumns m ++ q.dimensions).map fun _ => .null) (factValues c db base m q))

/-- The row of a meeting. -/
def meetingRow (x : Meeting) : Joined := gridRow q x.1 ++ guestRow c db base m q x.2

variable {c db base m q}

theorem get_grid (x : Meeting) (w : String) :
    (meetingRow c db base m q x).get ["grid", w] =
      valueAt (Grain.columns ++ q.dimensions) x.1.values w := by
  rw [meetingRow, gridRow, Joined.get_append_left, Joined.get_ofRow]
  exact Joined.not_named_ofRow (by decide) _ _

theorem get_facts (x : Meeting) (w : String) :
    (meetingRow c db base m q x).get ["facts", w] =
      x.2.elim .null fun row =>
        valueAt (inputColumns m ++ q.dimensions) (factValues c db base m q row) w := by
  rw [meetingRow, guestRow, Joined.get_append_right, Joined.get_ofRow]
  · cases x.2 with
    | none => exact valueAt_nulls _ _
    | some row => rfl
  · exact Joined.not_named_ofRow (by decide) _ _

section

variable (hgrid : (Grain.columns ++ q.dimensions).Nodup) {u : Place}
  (hu : q.dimensions.length = u.2.length)

include hgrid

/-- The column of a grain in the row of a place. -/
theorem valueAt_period (u : Place) (g : Grain) :
    valueAt (Grain.columns ++ q.dimensions) u.values g.column = .day (u.1.get g) := by
  refine valueAt_of_mem hgrid ?_
  rw [Place.values, List.zip_append (length_dayValues u.1)]
  exact List.mem_append_left _ (mem_zip_dayValues u.1 g)

include hu

/-- The columns of the dimensions have the values of the combination. -/
theorem map_valueAt_dimensions :
    q.dimensions.map (valueAt (Grain.columns ++ q.dimensions) u.values) = u.2 := by
  have hlength : (Grain.columns ++ q.dimensions).length = u.values.length := by
    rw [Place.values, List.length_append, List.length_append, length_dayValues u.1, hu]
  have hall := map_valueAt hgrid hlength
  rw [List.map_append, Place.values] at hall
  exact (List.append_inj hall (by rw [List.length_map, length_dayValues u.1])).2

end

/-- **The condition of the join holds for the rows that meet a place.** -/
theorem value_gridCondition (tables : Tables) (hm : m.Spelled)
    (hcolumns : (inputColumns m ++ q.dimensions).Nodup)
    (hgrid : (Grain.columns ++ q.dimensions).Nodup) {u : Place}
    (hu : q.dimensions.length = u.2.length) (row : List Value) :
    (gridCondition q).value db tables [meetingRow c db base m q (u, some row)] = .truth true ↔
      q.meets c db base u row = true := by
  have hday : (Expr.binary (plainColumn "facts" Grain.day.column) "="
      (plainColumn "grid" Grain.day.column)).value db tables
        [meetingRow c db base m q (u, some row)] = .truth true ↔
      c.dayOf db base row = some u.1.day := by
    rw [Expr.value_equal, value_plainColumn db tables (by decide) (by decide),
      value_plainColumn db tables (by decide) (by decide), List.headD_cons, get_facts, get_grid,
      valueAt_period hgrid]
    change ((valueAt _ _ _).equals (.day u.1.day)) = _ ↔ _
    rw [valueAt_day hm hcolumns, Value.equals_eq_true]
    cases c.dayOf db base row with
    | none => simp
    | some d => simp
  have hdimension : ∀ d ∈ q.dimensions,
      (Expr.distinct true (column "facts" d) (column "grid" d)).value db tables
        [meetingRow c db base m q (u, some row)] = .truth true ↔
      c.value base row d = valueAt (Grain.columns ++ q.dimensions) u.values d := by
    intro d hd
    change Value.truth (decide (Expr.value db tables _ _ = Expr.value db tables _ _) == true) = _ ↔ _
    rw [value_ownColumn db tables (by decide), value_ownColumn db tables (by decide),
      List.headD_cons, get_facts, get_grid]
    change Value.truth (decide (valueAt _ _ _ = _) == true) = _ ↔ _
    rw [valueAt_dimension hm hcolumns row hd]
    simp
  have hcombination : q.combination c base row = u.2 ↔ ∀ d ∈ q.dimensions,
      c.value base row d = valueAt (Grain.columns ++ q.dimensions) u.values d := by
    conv_lhs => rw [← map_valueAt_dimensions hgrid hu]
    exact List.map_inj_left
  rw [gridCondition, value_conjunction, List.forall_mem_cons, hday, List.forall_mem_map,
    MetricQuery.meets, decide_eq_true_eq, hcombination]
  exact and_congr_right fun _ => forall₂_congr hdimension

/-- **The rows of the join are the meetings on the grid.** -/
theorem rows_final {tables : Tables} {rows : List DayRow} (hm : m.Spelled)
    (hcolumns : (inputColumns m ++ q.dimensions).Nodup)
    (hgrid : (Grain.columns ++ q.dimensions).Nodup)
    (hplaces : tables ["grid"] =
      ⟨Grain.columns ++ q.dimensions, (rows ×ˢ q.combinations c db base).map Place.values⟩)
    (hfacts : tables ["facts"] = countedTable c db base m q) :
    Source.rows db tables (.mk (.table [.bare "grid"] none)
      [.mk "LEFT JOIN" (.table [.bare "facts"] none) (.on (gridCondition q))]) =
        (q.meetings c db base rows).map (meetingRow c db base m q) := by
  have hname : (Name.bare "facts").folded = "facts" := folded_own "facts" (by decide)
  have hbound : boundName none [Name.bare "facts"] = "facts" := hname
  rw [Source.rows_table, Join.joined_single, folded_own "grid" (by decide), hplaces, List.map_map,
    List.flatMap_map, MetricQuery.meetings, List.map_flatMap]
  refine List.flatMap_congr fun u hu => ?_
  have hlength : q.dimensions.length = u.2.length :=
    (MetricQuery.length_of_mem_combinations (List.mem_product.1 hu).2).symm
  have hfound : ((q.counted c db base).map fun row => guestRow c db base m q (some row)).filter
      (fun other => Condition.holds db tables (gridRow q u ++ other) (.on (gridCondition q))) =
        (q.guests c db base u).map fun row => guestRow c db base m q (some row) := by
    rw [List.filter_map, MetricQuery.guests]
    refine congrArg _ (List.filter_congr fun row _ => ?_)
    rw [Bool.eq_iff_iff, ← value_gridCondition tables hm hcolumns hgrid hlength row]
    exact decide_eq_true_iff
  rw [Join.besides_left]
  simp only [hbound, List.map_cons, List.map_nil, hname, hfacts, countedTable, List.map_map]
  refine Eq.trans (b := joinRows "LEFT JOIN" (gridRow q u)
    ((q.guests c db base u).map fun row => guestRow c db base m q (some row))
    (guestRow c db base m q none)) ?_ ?_
  · rw [← hfound]
    rfl
  · unfold MetricQuery.meetingsAt
    split
    · rename_i h
      rw [h]
      rfl
    · rename_i h
      rw [joinRows_ne_nil (by simpa using h), List.map_map, List.map_map]
      rfl

end

end Compiler

end SemanticLayer
