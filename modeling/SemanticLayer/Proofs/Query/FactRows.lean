import SemanticLayer.Proofs.Query.Acceptance
import SemanticLayer.Proofs.Query.Series
import SemanticLayer.Proofs.Sql.Meaning

/-
# The table of fact rows

Every lookup table is joined by its key, so a fact row stands beside one row of
each, or beside nulls.  The columns of the dimensions are found there, the
filters and the range are tested there, and no fact row is lost or met twice:
the table has one row for every row that the query counts, in the order of the
fact table (`Compiler.Parts.define_factsTable`).
-/

namespace SemanticLayer

open Sql

namespace Compiler

/-! ### Names -/

theorem toLower_of_isDigit {c : Char} (h : c.isDigit = true) : c.toLower = c := by
  have hval : 48 ≤ c.val.toNat ∧ c.val.toNat ≤ 57 := by
    simpa [Char.isDigit, UInt32.le_iff_toNat_le] using h
  have hupper : ¬ (c.val ≥ 'A'.val ∧ c.val ≤ 'Z'.val) := by
    simp only [ge_iff_le, UInt32.le_iff_toNat_le]
    change ¬ (65 ≤ c.val.toNat ∧ c.val.toNat ≤ 90)
    omega
  rw [Char.toLower, dif_neg hupper]

/-- A name in quotes is as it is written. -/
theorem folded_quoted (s : String) : (Name.quoted s).folded = s := rfl

/-- The name of a joined table is in lower case. -/
theorem folded_joined (n : Nat) : (Name.bare ("j" ++ toString n)).folded = "j" ++ toString n := by
  have hdigits : ∀ c ∈ (toString n).toList, c.toLower = c := by
    intro c hc
    rw [Nat.toString_eq_ofList_toDigits, String.toList_ofList] at hc
    exact toLower_of_isDigit (Nat.isDigit_of_mem_toDigits (by decide) (by decide) hc)
  have hlist : ("j" ++ toString n).toList.map Char.toLower = ("j" ++ toString n).toList := by
    rw [String.toList_append, List.map_append, List.map_congr_left hdigits, List.map_id']
    rfl
  change String.ofList (("j" ++ toString n).toList.map Char.toLower) = _
  rw [hlist, String.ofList_toList]

theorem folded_tableAlias (joins : List SemanticLayer.Join) (j : Option SemanticLayer.Join) :
    (Name.bare (tableAlias joins j)).folded = tableAlias joins j := by
  cases j with
  | none => exact folded_own "f" (by decide)
  | some j => exact folded_joined _

theorem tableAlias_ne (joins : List SemanticLayer.Join) (j : SemanticLayer.Join) :
    tableAlias joins (some j) ≠ "f" := by
  intro h
  have hlist := congrArg String.toList h
  rw [tableAlias, String.toList_append] at hlist
  have hhead : some 'j' = some 'f' := congrArg List.head? hlist
  exact absurd hhead (by decide)

/-- Two joins give two names. -/
theorem tableAlias_inj {joins : List SemanticLayer.Join} {j j' : SemanticLayer.Join}
    (hj : j ∈ joins) : tableAlias joins (some j) = tableAlias joins (some j') ↔ j = j' := by
  refine ⟨fun h => ?_, fun h => h ▸ rfl⟩
  have hlists := congrArg String.toList h
  rw [tableAlias, tableAlias, String.toList_append, String.toList_append,
    List.append_right_inj, String.toList_inj] at hlists
  have hplaces : joins.idxOf j + 1 = joins.idxOf j' + 1 := Nat.repr_inj.1 hlists
  exact (List.idxOf_inj hj).1 (by omega)

/-- A name with dots is the path of its parts. -/
theorem folded_tableName (name : String) : (tableName name).map Name.folded = tablePath name := by
  rw [tableName, tablePath, List.map_map]
  rfl

/-! ### Joins -/

/-- A list of at most one element is its head. -/
theorem eq_toList_head? {α : Type} {xs : List α} (h : xs.length ≤ 1) : xs = xs.head?.toList := by
  rcases xs with _ | ⟨x, _ | ⟨y, xs⟩⟩
  · rfl
  · rfl
  · simp at h

section

variable (db : Engine) (tables : Tables) (joins : List SemanticLayer.Join)

/-- What stands beside a row with a key: a row of the lookup table, or nulls. -/
def beside (j : SemanticLayer.Join) (key : Value) : Joined :=
  let t := tableOf tables j.table
  let found := t.rows.find? fun other => key ≠ .null ∧ key = t.cell other j.primaryKey
  Joined.ofRow (tableAlias joins (some j)) t.columns (found.getD (t.columns.map fun _ => .null))

/-- The condition of a join: the key of the facts is that of the lookup table. -/
def keyCondition (j : SemanticLayer.Join) : Expr :=
  .binary (column "f" j.foreignKey) "=" (column (tableAlias joins (some j)) j.primaryKey)

variable {tables joins} in
/-- **The condition compares the key on the left with the column of the key on the right.** -/
theorem holds_keyCondition {j : SemanticLayer.Join} {row : Joined}
    (hrow : ∀ c ∈ row, c.table ≠ tableAlias joins (some j)) (columns : List String)
    (other : List Value) :
    Condition.holds db tables (row ++ Joined.ofRow (tableAlias joins (some j)) columns other)
        (.on (keyCondition joins j)) =
      decide (row.get ["f", j.foreignKey] ≠ .null ∧
        row.get ["f", j.foreignKey] = valueAt columns other j.primaryKey) := by
  set name := tableAlias joins (some j) with hname
  have hfolded : (Name.bare name).folded = name := folded_tableAlias joins (some j)
  have hleft : (row ++ Joined.ofRow name columns other).get ["f", j.foreignKey] =
      row.get ["f", j.foreignKey] :=
    Joined.get_append_left (Joined.not_named_ofRow (tableAlias_ne joins j).symm _ _)
  have hright : (row ++ Joined.ofRow name columns other).get [name, j.primaryKey] =
      valueAt columns other j.primaryKey := by
    rw [Joined.get_append_right fun c hc => by simp [Datum.named, (hrow c hc).symm],
      Joined.get_ofRow]
  change decide (_ = Value.truth true) = _
  rw [keyCondition, Expr.value_equal]
  simp only [← hname, column, Expr.value_column, List.map_cons, List.map_nil, hfolded,
    folded_own "f" (by decide), folded_quoted, hleft, Engine.beside, hright, Value.equals_eq_true]

/-- **At most one row has a key,** the first that is found. -/
theorem filter_key {t : Table} {column : String} (hkey : t.IsKey column) (key : Value) :
    t.rows.filter (fun other => key ≠ .null ∧ key = t.cell other column) =
      (t.rows.find? fun other => key ≠ .null ∧ key = t.cell other column).toList := by
  rw [← List.head?_filter]
  refine eq_toList_head? ?_
  by_cases hnull : key = .null
  · simp [hnull]
  · simpa [hnull, eq_comm] using hkey.length_le hnull

variable {tables joins} in
/-- **A row stands beside one row of a lookup table,** the one that its key finds, or nulls. -/
theorem besides_lookupJoin {j : SemanticLayer.Join}
    (hkey : (tableOf tables j.table).IsKey j.primaryKey) {row : Joined}
    (hrow : ∀ c ∈ row, c.table ≠ tableAlias joins (some j)) :
    Join.besides db tables row (lookupJoin joins j) =
      [row ++ beside tables joins j (row.get ["f", j.foreignKey])] := by
  set name := tableAlias joins (some j) with hname
  set t := tableOf tables j.table with ht
  set key := row.get ["f", j.foreignKey] with hkeyed
  have htable : tables ((tableName j.table).map Name.folded) = t := by
    rw [folded_tableName]
    rfl
  have hfound : (t.rows.map (Joined.ofRow name t.columns)).filter (fun other =>
      Condition.holds db tables (row ++ other) (.on (keyCondition joins j))) =
      (t.rows.find? fun other => key ≠ .null ∧ key = t.cell other j.primaryKey).toList.map
        (Joined.ofRow name t.columns) := by
    rw [List.filter_map, ← filter_key hkey key]
    refine congrArg _ (List.filter_congr fun other _ => ?_)
    exact holds_keyCondition db hrow t.columns other
  have hfolded : (Name.bare name).folded = name := folded_tableAlias joins (some j)
  rw [lookupJoin, Join.besides_left, ← keyCondition]
  simp only [boundName, ← hname, hfolded, htable, hfound]
  unfold beside
  simp only [← hname, ← ht]
  cases t.rows.find? fun other => key ≠ .null ∧ key = t.cell other j.primaryKey with
  | none => rfl
  | some other => rfl

variable {tables joins} in
/-- What stands beside a row belongs to the joined table. -/
theorem table_of_mem_beside {j : SemanticLayer.Join} {key : Value} {c : Datum}
    (hc : c ∈ beside tables joins j key) : c.table = tableAlias joins (some j) := by
  obtain ⟨p, -, rfl⟩ := List.mem_map.1 hc
  rfl

/-- A row with its partner in one lookup table. -/
def widenedBy (j : SemanticLayer.Join) (row : Joined) : Joined :=
  row ++ beside tables joins j (row.get ["f", j.foreignKey])

/-- A partner hides no column of the facts. -/
theorem get_widenedBy (j : SemanticLayer.Join) (row : Joined) (column : String) :
    (widenedBy tables joins j row).get ["f", column] = row.get ["f", column] := by
  refine Joined.get_append_left fun c hc => ?_
  simp [Datum.named, table_of_mem_beside hc, (tableAlias_ne joins j).symm]

variable {tables joins} in
/-- What one join adds bears another name than what another join adds. -/
theorem table_ne_of_mem_widenedBy {j j' : SemanticLayer.Join} (hj : j ∈ joins) (hne : j ≠ j')
    {row : Joined} (hrow : ∀ c ∈ row, c.table ≠ tableAlias joins (some j')) :
    ∀ c ∈ widenedBy tables joins j row, c.table ≠ tableAlias joins (some j') := by
  intro c hc
  rcases List.mem_append.1 hc with hc | hc
  · exact hrow c hc
  · rw [table_of_mem_beside hc, Ne, tableAlias_inj hj]
    exact hne

/-- A row with all of its partners. -/
def widened (js : List SemanticLayer.Join) (row : Joined) : Joined :=
  row ++ js.flatMap fun j => beside tables joins j (row.get ["f", j.foreignKey])

/-- The partners are found one after the other. -/
theorem widened_widenedBy (j : SemanticLayer.Join) (js : List SemanticLayer.Join) (row : Joined) :
    widened tables joins js (widenedBy tables joins j row) = widened tables joins (j :: js) row := by
  simp only [widened, get_widenedBy, List.flatMap_cons]
  simp only [widenedBy, List.append_assoc]

variable {tables joins} in
/-- **Joins change no number of rows.** -/
theorem joined_lookups {js : List SemanticLayer.Join}
    (hkeys : ∀ j ∈ js, (tableOf tables j.table).IsKey j.primaryKey)
    (hjs : ∀ j ∈ js, j ∈ joins) (hnodup : js.Nodup) {rows : List Joined}
    (hrows : ∀ row ∈ rows, ∀ c ∈ row, ∀ j ∈ js, c.table ≠ tableAlias joins (some j)) :
    Sql.Join.joined db tables rows (js.map (lookupJoin joins)) =
      rows.map (widened tables joins js) := by
  induction js generalizing rows with
  | nil =>
    have hsame : widened tables joins [] = id := by
      funext row
      simp [widened]
    rw [hsame, List.map_id]
    rfl
  | cons j js ih =>
    obtain ⟨hkey, hmore⟩ := List.forall_mem_cons.1 hkeys
    obtain ⟨hj, hjs'⟩ := List.forall_mem_cons.1 hjs
    obtain ⟨hnot, hnodup'⟩ := List.nodup_cons.1 hnodup
    have hfirst : rows.flatMap (fun row => Sql.Join.besides db tables row (lookupJoin joins j)) =
        rows.map (widenedBy tables joins j) := by
      rw [List.map_eq_flatMap]
      refine List.flatMap_congr fun row hrow => besides_lookupJoin db hkey fun c hc => ?_
      exact hrows row hrow c hc j List.mem_cons_self
    have hapart : ∀ row ∈ rows.map (widenedBy tables joins j), ∀ c ∈ row, ∀ j' ∈ js,
        c.table ≠ tableAlias joins (some j') := by
      intro row hrow c hc j' hj'
      obtain ⟨before, hbefore, rfl⟩ := List.mem_map.1 hrow
      have hne : j ≠ j' := fun heq => hnot (heq ▸ hj')
      exact table_ne_of_mem_widenedBy hj hne
        (fun c hc => hrows before hbefore c hc j' (List.mem_cons_of_mem _ hj')) c hc
    change Sql.Join.joined db tables (rows.flatMap _) (js.map (lookupJoin joins)) = _
    rw [hfirst, ih hmore hjs' hnodup' hapart, List.map_map]
    exact List.map_congr_left fun row _ => widened_widenedBy tables joins j js row

end

/-! ### Dimensions -/

section

variable (c : Catalog) (tables : Tables) (joins : List SemanticLayer.Join)

/-- A fact row beside its partners. -/
def factRow (row : List Value) : Joined :=
  widened tables joins joins (Joined.ofRow "f" (tableOf tables c.fact.table).columns row)

/-- The columns of the fact table are found there. -/
theorem get_factRow (row : List Value) (column : String) :
    (factRow c tables joins row).get ["f", column] = c.input tables row column := by
  rw [factRow, widened, Joined.get_append_left, Joined.get_ofRow]
  · rfl
  · intro v hv
    obtain ⟨j, -, hj⟩ := List.mem_flatMap.1 hv
    simp [Datum.named, table_of_mem_beside hj, (tableAlias_ne joins j).symm]

/-- **So are those of the lookup tables.** -/
theorem get_factRow_joined (hnodup : joins.Nodup) {j : SemanticLayer.Join} (hj : j ∈ joins)
    (row : List Value) (column : String) :
    (factRow c tables joins row).get [tableAlias joins (some j), column] =
      (c.lookup? tables j row).elim .null fun other =>
        (tableOf tables j.table).cell other column := by
  obtain ⟨before, after, hsplit⟩ := List.append_of_mem hj
  have hother : ∀ j' ∈ before ++ after, ∀ (key : Value), ∀ v ∈ beside tables joins j' key,
      v.named [tableAlias joins (some j), column] = false := by
    intro j' hj' key v hv
    have hne : j ≠ j' := by
      rintro rfl
      rw [hsplit, List.nodup_middle] at hnodup
      exact (List.nodup_cons.1 hnodup).1 hj'
    simp [Datum.named, table_of_mem_beside hv, tableAlias_inj hj, hne]
  have hfact : ∀ v ∈ Joined.ofRow "f" (tableOf tables c.fact.table).columns row,
      v.named [tableAlias joins (some j), column] = false :=
    Joined.not_named_ofRow (tableAlias_ne joins j) _ _
  have hkey : (Joined.ofRow "f" (tableOf tables c.fact.table).columns row).get
      ["f", j.foreignKey] = c.input tables row j.foreignKey := Joined.get_ofRow ..
  rw [factRow, widened, Joined.get_append_right hfact]
  nth_rewrite 2 [hsplit]
  rw [List.flatMap_append, List.flatMap_cons, Joined.get_append_right, Joined.get_append_left, hkey,
    beside, Joined.get_ofRow, Catalog.lookup?]
  · cases (tableOf tables j.table).rows.find? fun other => c.input tables row j.foreignKey ≠ .null ∧
        c.input tables row j.foreignKey = (tableOf tables j.table).cell other j.primaryKey with
    | none => exact valueAt_nulls _ _
    | some other => rfl
  · intro v hv
    obtain ⟨j', hj', hmem⟩ := List.mem_flatMap.1 hv
    exact hother j' (List.mem_append_right _ hj') _ v hmem
  · intro v hv
    obtain ⟨j', hj', hmem⟩ := List.mem_flatMap.1 hv
    exact hother j' (List.mem_append_left _ hj') _ v hmem

end

/-! ### Conditions -/

section

variable {db : Engine} {tables : Tables}

theorem value_dateLiteral (d : Date) (group : List Sql.Joined) :
    (dateLiteral d).value db tables group = .day d := by
  change (Date.ofField? d.iso).elim Value.null .day = _
  rw [Date.ofField?_iso]
  rfl

/-- **A conjunction is true when all of its conditions are.** -/
theorem value_conjunction {first : Expr} {more : List Expr} {group : List Sql.Joined} :
    (conjunction first more).value db tables group = .truth true ↔
      ∀ e ∈ first :: more, e.value db tables group = .truth true := by
  induction more generalizing first with
  | nil => simp [conjunction]
  | cons next more ih =>
    have hstep : conjunction first (next :: more) =
        conjunction (.binary first "AND" next) more := rfl
    rw [hstep, ih, List.forall_mem_cons, Expr.value_and, List.forall_mem_cons, List.forall_mem_cons,
      and_assoc]

/-- A value that may be a day is in range when it is a day between the bounds. -/
theorem value_inRange {e : Expr} {group : List Sql.Joined} {day? : Option Date}
    (he : e.value db tables group = day?.elim .null .day) (start stop : Date) :
    (inRange e start stop).value db tables group = .truth true ↔
      (day?.any fun d => start ≤ d ∧ d ≤ stop) = true := by
  change Value.negated false ((db.atMost _ (e.value db tables group)).both
    (db.atMost (e.value db tables group) _)) = _ ↔ _
  rw [Value.negated_false_eq_true, Value.both_eq_true, value_dateLiteral, value_dateLiteral, he]
  cases day? with
  | none => simp [Engine.atMost]
  | some d => simp [Engine.atMost, db.le_day]

/-- **A filter holds** when one of its texts is what the value says. -/
theorem value_filterCondition {e : Expr} {group : List Sql.Joined} (texts : List String) :
    (filterCondition e texts).value db tables group = .truth true ↔
      texts.any (db.fits (e.value db tables group)) = true := by
  have hlist : (Expr.inList false e (texts.map .text)).value db tables group = .truth true ↔
      texts.any (db.fits (e.value db tables group)) = true := by
    have hread : List.zipWith (db.beside (e.value db tables group)) (texts.map .text)
        (Expr.values db tables group (texts.map .text)) =
          texts.map (db.read (e.value db tables group)) := by
      rw [Expr.values_eq_map, List.zipWith_map_right, List.zipWith_self, List.map_map]
      rfl
    change Value.negated false (Value.among _ _) = _ ↔ _
    rw [Value.negated_false_eq_true, Value.among_eq_true, hread]
    simp only [List.mem_map, List.any_eq_true, Engine.fits, decide_eq_true_eq]
    constructor
    · rintro ⟨⟨s, hs, heq⟩, hne⟩
      exact ⟨s, hs, hne, heq.symm⟩
    · rintro ⟨s, hs, hne, heq⟩
      exact ⟨⟨s, hs, heq.symm⟩, hne⟩
  match texts with
  | [] => exact hlist
  | [s] =>
    change (Expr.binary e "=" (.text s)).value db tables group = _ ↔ _
    rw [Expr.value_equal, Value.equals_eq_true]
    simp [Engine.fits, Engine.beside]
  | s :: s' :: more => exact hlist

end

/-! ### The parts of the block -/

/-- The items of the facts besides the dimensions. -/
def inputItems (fact : FactTable) (m : Metric) : List Item :=
  .aliased (factDate fact) (.bare Grain.day.column) ::
    .aliased (column "f" m.sourceColumn) (.bare "metric_input") :: denominatorItem m

/-- The inputs of the metric are called without quotes. -/
theorem exists_bare_of_mem_inputItems {fact : FactTable} {m : Metric} {i : Item}
    (h : i ∈ inputItems fact m) : ∃ e w, i = .aliased e (.bare w) := by
  rcases List.mem_cons.1 h with rfl | h
  · exact ⟨_, _, rfl⟩
  rcases List.mem_cons.1 h with rfl | h
  · exact ⟨_, _, rfl⟩
  unfold denominatorItem at h
  split at h
  · exact ⟨_, _, List.mem_singleton.1 h⟩
  · cases h

/-- All of them: the dimensions are called in quotes, as the query calls them. -/
def factItems (fact : FactTable) (m : Metric) (ds : List Dimension) (q : MetricQuery) : List Item :=
  inputItems fact m ++ q.dimensions.map fun d => .aliased (columnOf ds d) (.quoted d)

/-- The fact table with its joins. -/
def factSource (fact : FactTable) (ds : List Dimension) : Source :=
  .mk (.table (tableName fact.table) (some ⟨.bare "f", []⟩))
    ((joinsOf ds).map (lookupJoin (joinsOf ds)))

/-- The range and the filters. -/
def factCondition (fact : FactTable) (ds : List Dimension) (q : MetricQuery) : Expr :=
  conjunction (inRange (factDate fact) q.start q.stop)
    (q.filters.entries.map fun f => filterCondition (columnOf ds f.1) f.2)

theorem factsTable_eq (fact : FactTable) (m : Metric) (ds : List Dimension) (q : MetricQuery) :
    factsTable fact m ds q =
      .mk ⟨.bare "facts", []⟩ "" (ofSelect (selectFrom (factItems fact m ds q)
        [factSource fact ds] (some (factCondition fact ds q)))) "" := rfl

/-- **The items name the columns of the table.** -/
theorem map_name_factItems {fact : FactTable} {m : Metric} {ds : List Dimension} {q : MetricQuery}
    (hm : m.Spelled) : (factItems fact m ds q).map Item.name = inputColumns m ++ q.dimensions := by
  have hnamed : ∀ i ∈ factItems fact m ds q, i.column?.isSome := by
    intro i hi
    rcases List.mem_append.1 hi with hi | hi
    · obtain ⟨_, _, rfl⟩ := exists_bare_of_mem_inputItems hi
      rfl
    · obtain ⟨_, -, rfl⟩ := List.mem_map.1 hi
      rfl
  have hcolumns : (factsTable fact m ds q).columns = inputColumns m ++ q.dimensions :=
    columns_factsTable hm
  rw [Item.map_name hnamed, ← hcolumns, factsTable_eq, columns_ofSelect]

/-! ### The table -/

/-- The value of a denominator, if the metric is a ratio. -/
def denominators (m : Metric) (value : String → Value) : List Value :=
  match m.aggregation, m.denominatorColumn with
  | .ratio, some denominator => [value denominator]
  | _, _ => []

section

variable (c : Catalog) (db : Engine) (tables : Tables) (m : Metric) (q : MetricQuery)

/-- What the table of facts says of a fact row. -/
def factValues (row : List Value) : List Value :=
  (c.dayOf db tables row).elim .null .day :: c.input tables row m.sourceColumn ::
    denominators m (c.input tables row) ++ q.combination c tables row

/-- The fact rows that are counted, with their days, inputs and dimensions. -/
def countedTable : Table :=
  ⟨inputColumns m ++ q.dimensions, (q.counted c db tables).map (factValues c db tables m q)⟩

end

section

variable {k : Compiler} {db : Engine} {tables : Tables} {q : MetricQuery} {m : Metric}
  {ds : List Dimension} {rows : List DayRow}

variable (k db tables) in
theorem value_column (joins : List SemanticLayer.Join) (row : List Value) (column : String) :
    (Compiler.column "f" column).value db tables [factRow k.catalog tables joins row] =
      k.catalog.input tables row column := by
  have hf : (Name.bare "f").folded = "f" := folded_own "f" (by decide)
  rw [Compiler.column, Expr.value_column, List.map_cons, List.map_cons, List.map_nil, hf,
    folded_quoted, get_factRow]

/-- **The column of a dimension has its value.** -/
theorem Parts.value_columnOf (h : k.Parts q m ds rows) {name : String} (hn : name ∈ referenced q)
    (row : List Value) :
    (columnOf ds name).value db tables [factRow k.catalog tables (joinsOf ds) row] =
      k.catalog.value tables row name := by
  obtain ⟨d, hd, hname, hfind⟩ := h.find hn
  have hjoins : (joinsOf ds).Nodup := nodup_firstOccurrences _
  rw [columnOf, hfind, Catalog.value, Catalog.dimension_eq_ok_iff.2 ⟨hd, hname⟩]
  change (Compiler.column _ d.sourceColumn).value db tables _ = k.catalog.valueIn tables row d
  unfold Catalog.valueIn
  cases hjoin : d.join with
  | none => exact value_column ..
  | some j =>
    have hj : j ∈ joinsOf ds := by
      rw [joinsOf, mem_firstOccurrences]
      exact List.mem_filterMap.2 ⟨d, List.mem_of_find?_eq_some hfind, hjoin⟩
    rw [Compiler.column, Expr.value_column, List.map_cons, List.map_cons, List.map_nil,
      folded_tableAlias, folded_quoted, get_factRow_joined _ _ _ hjoins hj]

theorem value_factDate (joins : List SemanticLayer.Join) (row : List Value) :
    (factDate k.catalog.fact).value db tables [factRow k.catalog tables joins row] =
      (k.catalog.dayOf db tables row).elim .null .day := by
  change db.cast "DATE" ((Compiler.column "f" _).value db tables _) = _
  rw [value_column]
  rfl

/-- **The condition on the fact rows is true of those that are counted.** -/
theorem Parts.value_condition (h : k.Parts q m ds rows) (row : List Value) :
    (factCondition k.catalog.fact ds q).value db tables
        [factRow k.catalog tables (joinsOf ds) row] = .truth true ↔
      q.counts k.catalog db tables row = true := by
  rw [factCondition, value_conjunction, List.forall_mem_cons, value_inRange (value_factDate _ row),
    MetricQuery.counts, Bool.and_eq_true, List.all_eq_true, List.forall_mem_map]
  refine and_congr_right fun _ => forall₂_congr fun f hf => ?_
  rw [value_filterCondition, h.value_columnOf (mem_referenced_filters (List.mem_map_of_mem hf))]

/-- The values of the items are what the table says of a row. -/
theorem Parts.value_items (h : k.Parts q m ds rows) (row : List Value) :
    (factItems k.catalog.fact m ds q).map
        (Item.value db tables [factRow k.catalog tables (joinsOf ds) row]) =
      factValues k.catalog db tables m q row := by
  have hdenominators : (denominatorItem m).map
      (Item.value db tables [factRow k.catalog tables (joinsOf ds) row]) =
        denominators m (k.catalog.input tables row) := by
    unfold denominatorItem denominators
    match m.aggregation, m.denominatorColumn with
    | .ratio, some column => exact congrArg (fun v => [v]) (value_column k db tables (joinsOf ds) row column)
    | .ratio, none => rfl
    | .sum, _ => rfl
    | .avg, _ => rfl
    | .count, _ => rfl
  have hdimensions : (q.dimensions.map fun d => Item.aliased (columnOf ds d) (.quoted d)).map
      (Item.value db tables [factRow k.catalog tables (joinsOf ds) row]) =
        q.combination k.catalog tables row := by
    rw [List.map_map]
    exact List.map_congr_left fun d hd => h.value_columnOf (mem_referenced_dimensions hd) row
  have hday : Item.value db tables [factRow k.catalog tables (joinsOf ds) row]
      (.aliased (factDate k.catalog.fact) (.bare Grain.day.column)) = _ := value_factDate _ row
  have hinput : Item.value db tables [factRow k.catalog tables (joinsOf ds) row]
      (.aliased (Compiler.column "f" m.sourceColumn) (.bare "metric_input")) =
        k.catalog.input tables row m.sourceColumn :=
    value_column k db tables (joinsOf ds) row m.sourceColumn
  rw [factItems, inputItems, List.map_append, List.map_cons, List.map_cons, hday, hinput,
    hdenominators, hdimensions, factValues]

/-- The joins of a statement are those that its query follows. -/
theorem Parts.follows (h : k.Parts q m ds rows) {j : SemanticLayer.Join} (hj : j ∈ joinsOf ds) :
    q.Follows k.catalog j := by
  rw [joinsOf, mem_firstOccurrences] at hj
  obtain ⟨d, hd, hjoin⟩ := List.mem_filterMap.1 hj
  have hfound : Except.ok d ∈ (referenced q).map k.catalog.dimension :=
    h.dimensions ▸ List.mem_map_of_mem hd
  obtain ⟨name, hname, hdimension⟩ := List.mem_map.1 hfound
  obtain ⟨hmem, rfl⟩ := Catalog.dimension_eq_ok_iff.1 hdimension
  refine ⟨d, hmem, ?_, hjoin⟩
  rcases List.mem_append.1 hname with hname | hname
  · exact .inl hname
  · exact .inr (List.mem_filter.1 hname).1

/-- **The fact table with its joins has the fact rows,** each beside its partners. -/
theorem Parts.rows_factSource (h : k.Parts q m ds rows) (hkeyed : q.Keyed k.catalog tables) :
    (factSource k.catalog.fact ds).rows db tables =
      (tableOf tables k.catalog.fact.table).rows.map (factRow k.catalog tables (joinsOf ds)) := by
  set t := tableOf tables k.catalog.fact.table with ht
  have htable : tables ((tableName k.catalog.fact.table).map Name.folded) = t := by
    rw [folded_tableName]
    rfl
  have hf : (Name.bare "f").folded = "f" := folded_own "f" (by decide)
  have hkeys : ∀ j ∈ joinsOf ds, (tableOf tables j.table).IsKey j.primaryKey :=
    fun j hj => hkeyed j (h.follows hj)
  have hapart : ∀ row ∈ t.rows.map (Joined.ofRow "f" t.columns), ∀ v ∈ row, ∀ j ∈ joinsOf ds,
      v.table ≠ tableAlias (joinsOf ds) (some j) := by
    intro row hrow v hv j _
    obtain ⟨values, -, rfl⟩ := List.mem_map.1 hrow
    obtain ⟨p, -, rfl⟩ := List.mem_map.1 hv
    exact (tableAlias_ne _ j).symm
  have hjoined := joined_lookups db hkeys (fun _ hj => hj) (nodup_firstOccurrences _) hapart
  rw [List.map_map] at hjoined
  change Sql.Join.joined db tables ((tables _).rows.map (Joined.ofRow (Name.folded _) _)) _ = _
  rw [htable, hf, hjoined]
  rfl

/-- **The condition leaves those that are counted.** -/
theorem Parts.passing_factRows (h : k.Parts q m ds rows) :
    Expr.passing db tables
        ((tableOf tables k.catalog.fact.table).rows.map (factRow k.catalog tables (joinsOf ds)))
        (some (factCondition k.catalog.fact ds q)) =
      (q.counted k.catalog db tables).map (factRow k.catalog tables (joinsOf ds)) := by
  change List.filter _ _ = _
  rw [List.filter_map, MetricQuery.counted]
  refine congrArg _ (List.filter_congr fun row _ => ?_)
  simp only [Function.comp_apply, h.value_condition row, Bool.decide_eq_true]

/-- **The table of facts holds the counted rows,** each of them once. -/
theorem Parts.define_factsTable (h : k.Parts q m ds rows) (hm : m.Spelled)
    (hkeyed : q.Keyed k.catalog tables) :
    (factsTable k.catalog.fact m ds q).define db tables =
      Function.update tables ["facts"] (countedTable k.catalog db tables m q) := by
  have hfacts : (Name.bare "facts").folded = "facts" := folded_own "facts" (by decide)
  have hmeaning := Query.meaning_block db tables (factItems k.catalog.fact m ds q)
    [factSource k.catalog.fact ds] (some (factCondition k.catalog.fact ds q))
  rw [Source.joined_single, h.rows_factSource hkeyed, map_name_factItems hm, h.passing_factRows,
    List.map_map] at hmeaning
  rw [factsTable_eq]
  change Function.update tables [(Name.bare "facts").folded] (Query.meaning db tables _) = _
  rw [hfacts, countedTable]
  refine congrArg _ (hmeaning.trans ?_)
  exact congrArg _ (List.map_congr_left fun row _ => h.value_items row)

end

end Compiler

end SemanticLayer
