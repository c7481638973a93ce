import SemanticLayer.Proofs.Query.Spelling
import SemanticLayer.Proofs.Sql.Queries

/-
# What is read of compiled statements

`Compiler.statementLexemes` is taken part by part: its columns, conditions and
aggregates are operands and expressions, the three tables are defined tables,
and the final block is a body.  Only the final block nests deeper with every
dimension: its tests of dimensions take in each other.

| part | levels |
| --- | ---: |
| table of days | 2 |
| table of fact rows | 3 |
| grid | 5 |
| final block | 3, and two for each dimension |
-/

namespace SemanticLayer.Compiler

open Sql Reader Inner

/-! ### Names and columns -/

/-- The words that start forms of their own. -/
def formWords : List String := typeWords ++ operandWords ++ leadWords ++ tableWords

theorem free_of_not_mem {n : Name} (h : n.keyword ∉ formWords) : n.Free := by
  simp only [formWords, List.mem_append, not_or] at h
  exact ⟨h.1.1.1, h.1.1.2, h.1.2, h.2⟩

/-- No such word is a name of the compiler, and none is a `J` with digits. -/
theorem formWords_other :
    (∀ w ∈ ownNames, (Name.bare w).keyword ∉ formWords) ∧
      ∀ w ∈ formWords, w.toList.all (fun c => c == 'J' || c.isDigit) = false := by
  decide +kernel

theorem free_own {w : String} (h : w ∈ ownNames) : (Name.bare w).Free :=
  free_of_not_mem (formWords_other.1 w h)

theorem upperChar_of_isDigit {c : Char} (h : c.isDigit = true) : Token.upperChar c = [c] := by
  have hval : 48 ≤ c.val.toNat ∧ c.val.toNat ≤ 57 := by
    simpa [Char.isDigit, UInt32.le_iff_toNat_le] using h
  have hupper : c.toUpper = c := by
    refine dif_neg fun hlower => ?_
    have : 97 ≤ c.val.toNat := hlower.1
    omega
  rw [Token.upperChar, if_pos (show c.toNat < 128 from Nat.lt_of_le_of_lt hval.2 (by decide)),
    hupper]

theorem free_joined (n : Nat) : (Name.bare ("j" ++ toString n)).Free := by
  refine free_of_not_mem fun h => ?_
  have hall : (Name.bare ("j" ++ toString n)).keyword.toList.all
      (fun c => c == 'J' || c.isDigit) = true := by
    have hdigits : ∀ c ∈ (toString n).toList, c.isDigit = true := fun c hc => by
      rw [Nat.toString_eq_ofList_toDigits, String.toList_ofList] at hc
      exact Nat.isDigit_of_mem_toDigits (by omega) (by omega) hc
    change (Token.upper ("j" ++ toString n).toList).toList.all _ = true
    rw [String.toList_append, Token.upper, String.toList_ofList, List.flatMap_append,
      List.all_append, Bool.and_eq_true]
    refine ⟨rfl, List.all_eq_true.2 fun c hc => ?_⟩
    obtain ⟨c', hc', hc⟩ := List.mem_flatMap.1 hc
    rw [upperChar_of_isDigit (hdigits c' hc'), List.mem_singleton] at hc
    rw [hc, hdigits c' hc', Bool.or_true]
  rw [formWords_other.2 _ h] at hall
  cases hall

theorem free_tableAlias (joins : List Join) (j : Option Join) :
    (Name.bare (tableAlias joins j)).Free := by
  cases j with
  | none => exact free_own (by simp [ownNames, tableAlias])
  | some j => exact free_joined _

theorem isOperand_column {table : String} (ht : (Name.bare table).Free) (c : String) :
    IsOperand 0 (shown (columnLexemes table c)) (column table c) := by
  rw [columnLexemes, shown_path]
  exact isOperand_path ht [.quoted c]

theorem isOperand_plainColumn {table c : String} (ht : table ∈ ownNames) :
    IsOperand 0 (shown (plainColumnLexemes table c)) (plainColumn table c) := by
  rw [plainColumnLexemes, shown_path]
  exact isOperand_path (free_own ht) [.bare c]

/-- A column starts with the name of its table and a dot. -/
theorem opens_path (table c : Name) : Opens (shown (pathLexemes [table, c])) :=
  ⟨table, ".", [c.token], shown_path _, by decide⟩

theorem isOperand_dateLiteral (d : Date) :
    IsOperand 0 (shown (dateLexemes d.iso)) (dateLiteral d) := by
  rw [shown_date]
  exact isOperand_date d.iso

/-! ### Conditions -/

section

variable {h least : Nat} {e r : Expr} {le lr : List Lexeme}

theorem shown_conjunction (first : List Lexeme) (more : List (List Lexeme)) :
    shown (conjunctionLexemes first more) =
      shown first ++ (more.map shown).flatMap (kw "AND" :: ·) := by
  induction more generalizing first with
  | nil => simp [conjunctionLexemes]
  | cons ls more ih =>
    have hnext : conjunctionLexemes first (ls :: more) =
        conjunctionLexemes (binaryLexemes first ls "AND") more := rfl
    rw [hnext, ih, shown_binary (t := kw "AND") (by simp [fixedTokens])]
    simp

/-- Two operands are compared. -/
theorem isLeft_equal (hl : IsOperand 0 (shown le) e) (hr : IsOperand 0 (shown lr) r) (hh : 0 < h)
    (hleast : least < 50) :
    IsLeft h least 50 1 (shown (binaryLexemes le lr "=")) (.binary e "=" r) := by
  rw [shown_binary (t := .symbol "=") (by simp [fixedTokens])]
  exact (hl.mono (Nat.zero_le h)).isLeft.binary (by simp [binaryOperators]) hr.isExpr hh hleast
    (Nat.le_refl 50)

theorem isLeft_inRange (he : IsOperand h (shown le) e) (hh : 0 < h) (start stop : Date) :
    IsLeft h 0 60 1 (shown (inRangeLexemes le start stop)) (inRange e start stop) := by
  rw [inRangeLexemes, shown_between]
  exact he.isLeft.between (isOperand_dateLiteral start).isExpr
    (isOperand_dateLiteral stop).isExpr hh
    (by decide) (Nat.le_refl 60)

/-- A value as it is read back. -/
def receivedValue (v : String) : String := String.ofList (received .plain v.toList)

/-- **A filter is read as a filter** on the values as they are read back. -/
theorem isExpr_filter (he : IsOperand 0 (shown le) e) {values : List String} (hne : values ≠ []) :
    IsExpr 1 20 (shown (filterLexemes le values))
      (filterCondition e (values.map receivedValue)) := by
  have htexts : ∀ vs : List String, ((vs.map fun v => [Lexeme.value v]).map shown) =
      (vs.map receivedValue).map fun v => [.text v] := by
    intro vs
    rw [List.map_map, List.map_map]
    exact List.map_congr_left fun v _ => shown_value v
  have hlist : ∀ vs : List String, vs ≠ [] →
      IsExpr 1 20 (shown (inLexemes le (vs.map fun v => [.value v])))
        (.inList false e ((vs.map receivedValue).map .text)) := by
    intro vs hvs
    rw [shown_in, htexts]
    exact ((he.mono (Nat.zero_le 1)).isLeft.inTexts (by simpa using hvs) (by decide) (by decide)
      (Nat.le_refl 60)).isExpr (by decide)
  match values, hne with
  | [value], _ =>
    have htext : IsOperand 0 (shown [.value value]) (.text (receivedValue value)) :=
      isOperand_text _
    exact (isLeft_equal he htext (by decide) (by decide)).isExpr (by decide)
  | value :: next :: rest, hne => exact hlist _ hne

end

/-! ### Blocks -/

theorem forall₂_map_map {α β γ : Type} {R : β → γ → Prop} {f : α → β} {g : α → γ} {xs : List α}
    (h : ∀ x ∈ xs, R (f x) (g x)) : List.Forall₂ R (xs.map f) (xs.map g) :=
  List.forall₂_map_left_iff.2 (List.forall₂_map_right_iff.2 (List.forall₂_same.2 h))

theorem rel_map {α β γ : Type} {R : β → γ → Prop} {f : α → β} {o : Option α} {o' : Option γ}
    (h : Option.Rel (fun a c => R (f a) c) o o') : Option.Rel R (o.map f) o' := by
  cases h with
  | none => exact .none
  | some h => exact .some h

section

variable {h : Nat} {litems lgroups : List (List Lexeme)} {items : List Item} {groups : List Expr}
  {lsource lcondition : Option (List Lexeme)} {source : Option Source} {condition : Option Expr}

/-- **A block is read** as its parts are. -/
theorem isSimple_block (distinct : Bool)
    (hitems : List.Forall₂ (fun ls i => IsItem h (shown ls) i) litems items) (hne : litems ≠ [])
    (hsource : Option.Rel (fun ls s => IsSource h (shown ls) s) lsource source)
    (hcondition : Option.Rel (fun ls e => IsExpr h 0 (shown ls) e) lcondition condition)
    (hgroups : List.Forall₂ (fun ls e => IsGroup h (shown ls) e) lgroups groups) :
    IsSimple h (shown (selectLexemes distinct litems lsource lcondition lgroups))
      (.select (.mk (distinctParts distinct) items none source.toList [] condition groups []
        none [])) := by
  have hgss : (if lgroups.isEmpty then none else some (between "," (lgroups.map shown))) =
      if (lgroups.map shown).isEmpty then none else some (between "," (lgroups.map shown)) := by
    rw [List.isEmpty_map]
  rw [shown_select, hgss]
  exact isSimple_select distinct (List.forall₂_map_left_iff.2 hitems) (by simpa using hne)
    (rel_map hsource) (rel_map hcondition) (List.forall₂_map_left_iff.2 hgroups)

end

section

variable {h : Nat} {e : Expr} {le lq : List Lexeme} {q : Query}

theorem isTerm_column (table c : String) : IsTerm (column table c) := ⟨nofun, rfl⟩

theorem isTerm_plainColumn (table c : String) : IsTerm (plainColumn table c) := ⟨nofun, rfl⟩

theorem isItem_named (he : IsExpr h 0 (shown le) e) (hterm : IsTerm e) (n : Name) :
    IsItem h (shown (aliasedLexemes le n)) (.aliased e n) := by
  rw [shown_aliased]
  exact isItem_aliased he hterm n

theorem isTable_lexemes {n : Name} (hn : n.Free) (path : List Name) (called : Option Name) :
    IsTable h (shown (tableLexemes (n :: path) called))
      (.table (n :: path) (called.map fun m => ⟨m, []⟩)) := by
  rw [shown_table]
  exact fun b d rest _ hb hrest => isTable_named hn path called (Nat.zero_le d) hb hrest

/-- A table of the catalog or of the statement, without joins. -/
theorem isSource_only {path : List Name} (hne : path ≠ []) (hfree : ∀ n ∈ path, n.Free) :
    IsSource h (shown (tableLexemes path none)) (only path) := by
  obtain ⟨n, path, rfl⟩ := List.exists_cons_of_ne_nil hne
  have htable : IsTable h (shown (tableLexemes (n :: path) none)) (.table (n :: path) none) :=
    isTable_lexemes (hfree n List.mem_cons_self) path none
  have hsource :
      IsSource h (shown (tableLexemes (n :: path) none) ++ [].flatten) (only (n :: path)) :=
    isSource htable .nil
  rwa [List.flatten_nil, List.append_nil] at hsource

/-- The names of the defined tables say nothing about the clause they are in. -/
theorem ownNames_other : ∀ w ∈ ownNames, (Name.bare w).keyword ≠ "RECURSIVE" := by decide

/-- **A defined table is read** as its query is. -/
theorem isTableDef_named {w : String} (hw : w ∈ ownNames) (columns : List Name)
    (hq : IsQuery h (shown lq) q) :
    IsTableDef h (shown (tableDefLexemes (Alias.lexemes ⟨.bare w, columns⟩) lq))
      (.mk ⟨.bare w, columns⟩ "" q "") := by
  rw [shown_tableDef, shown_alias]
  exact isTableDef ⟨.bare w, columns⟩ (ownNames_other w hw) hq

end

/-! ### The table of days -/

theorem free_tableName (name : String) : ∀ n ∈ tableName name, n.Free := by
  intro n hn
  obtain ⟨part, _, rfl⟩ := List.mem_map.1 hn
  exact Name.free_quoted _

/-- A column of the days by its name alone. -/
theorem isOperand_day {c : String} (hc : c ∈ Grain.columns) :
    IsOperand 0 (shown [Name.lexeme (.bare c)]) (.column [.bare c]) := by
  rw [shown_name]
  exact isOperand_path (free_own (List.mem_append_right _ hc)) []

theorem isTerm_day {c : String} (hc : c ∈ Grain.columns) : IsTerm (.column [.bare c]) := by
  have hnot : ∀ c ∈ Grain.columns, item.isFrom (.column [.bare c]) = false := by decide +kernel
  exact ⟨nofun, hnot c hc⟩

/-- **The days are listed** row by row. -/
theorem isSimple_days {rows : List DayRow} (hne : rows ≠ []) :
    IsSimple 1
      (shown (valuesLexemes (rows.map fun row => row.toList.map fun d => dateLexemes d.iso)))
      (.values "" (rows.map fun row => row.toList.map dateLiteral)) := by
  have hvalues : IsSimple 1
      (kw "VALUES" ::
        between "," ((rows.map fun row => row.toList.map fun d => shown (dateLexemes d.iso)).map
        fun rs => .symbol "(" :: (between "," rs ++ [.symbol ")"])))
      (.values "" (rows.map fun row => row.toList.map dateLiteral)) := by
    refine isSimple_values (forall₂_map_map fun row _ => ⟨nofun, forall₂_map_map fun d _ => ?_⟩)
      (by simpa using hne)
    exact ((isOperand_dateLiteral d).mono (Nat.zero_le 1)).isExpr
  rw [shown_values, List.map_map]
  rw [List.map_map] at hvalues
  simpa [Function.comp_def] using hvalues

/-- Or they come from a table. -/
theorem isSimple_spineTable (name : String) (start stop : Date) :
    IsSimple 1 (shown (spineBodyLexemes (.table name) [] start stop))
      (spineBody (.table name) [] start stop) := by
  have hitems : List.Forall₂ (fun ls i => IsItem 1 (shown ls) i)
      (spineColumns.map fun c => [c.lexeme]) (spineColumns.map fun c => .expr (.column [c])) := by
    rw [spineColumns, List.map_map, List.map_map]
    exact forall₂_map_map fun c hc =>
      isItem_expr ((isOperand_day hc).mono (Nat.zero_le 1)).isExpr (isTerm_day hc)
  have hday := (isOperand_day (c := Grain.day.column) List.mem_cons_self).mono (Nat.zero_le 1)
  exact isSimple_block false hitems (List.cons_ne_nil _ _)
    (.some (isSource_only (tableName_ne_nil name) (free_tableName name)))
    (.some ((isLeft_inRange hday (by decide) start stop).isExpr (Nat.zero_le _))) .nil

theorem isTableDef_spine (source : SpineSource) {rows : List DayRow} (hne : rows ≠ [])
    (start stop : Date) :
    IsTableDef 2 (shown (spineTableLexemes (spineBodyLexemes source rows start stop)))
      (spineTable (spineBody source rows start stop)) := by
  refine isTableDef_named (by simp [ownNames]) _ (IsBody.isQuery (IsSimple.isBody ?_))
  cases source with
  | inline => exact isSimple_days hne
  | table name => exact isSimple_spineTable name start stop

/-! ### The table of fact rows -/

/-- A query with the values of its filters as they are read back. -/
def receivedQuery (q : MetricQuery) : MetricQuery :=
  { q with filters := q.filters.mapValues (·.map receivedValue) }

section

variable {k : Compiler} {q : MetricQuery} {m : Metric} {ds : List Dimension} {rows : List DayRow}

/-- The column of a name that a query mentions. -/
theorem Parts.isOperand_columnOf (h : k.Parts q m ds rows) {name : String}
    (hn : name ∈ referenced q) :
    IsOperand 0 (shown (pathLexemes (columnPath ds name))) (columnOf ds name) := by
  obtain ⟨d, -, -, hfind⟩ := h.find hn
  unfold columnOf columnPath
  rw [hfind]
  exact isOperand_column (free_tableAlias _ _) d.sourceColumn

theorem Parts.isTerm_columnOf (h : k.Parts q m ds rows) {name : String} (hn : name ∈ referenced q) :
    IsTerm (columnOf ds name) := by
  obtain ⟨d, -, -, hfind⟩ := h.find hn
  unfold columnOf
  rw [hfind]
  exact isTerm_column _ _

theorem isOperand_factDate (fact : FactTable) :
    IsOperand 1 (shown (factDateLexemes fact)) (factDate fact) := by
  have hcolumn :
      IsOperand 0 (shown (columnLexemes "f" fact.dateColumn)) (column "f" fact.dateColumn) :=
    isOperand_column (free_own (by simp [ownNames])) _
  rw [factDateLexemes, shown_cast (y := [kw "DATE"]) (by simp [fixedTokens])]
  exact isOperand_cast hcolumn.isExpr (opens_path _ _) reads_dateType

/-- A table of the catalog under a name of the statement. -/
theorem isTable_called {h : Nat} (name : String) (called : Name) :
    IsTable h (shown (tableLexemes (tableName name) (some called)))
      (.table (tableName name) (some ⟨called, []⟩)) := by
  obtain ⟨n, path, hpath⟩ := List.exists_cons_of_ne_nil (tableName_ne_nil name)
  have hn : n.Free := free_tableName name n (hpath ▸ List.mem_cons_self)
  rw [hpath]
  exact isTable_lexemes hn path (some called)

theorem isJoin_lookup (joins : List Join) (j : Join) :
    IsJoin 1 (shown (lookupJoinLexemes joins j)) (lookupJoin joins j) := by
  have hcondition := isLeft_equal (h := 1)
    (isOperand_column (free_own (w := "f") (by simp [ownNames])) j.foreignKey)
    (isOperand_column (free_tableAlias joins (some j)) j.primaryKey) (by decide)
    (by decide : 0 < 50)
  have hjoin := isJoin_left (isTable_called j.table (.bare (tableAlias joins (some j))))
    (hcondition.isExpr (Nat.zero_le _))
  rw [lookupJoinLexemes, shown_join (y := [kw "LEFT", kw "JOIN"]) (by simp [fixedTokens])]
  simpa [clauseTokens, lookupJoin] using hjoin

theorem isSource_fact (fact : FactTable) (ds : List Dimension) :
    IsSource 2 (shown (factSourceLexemes fact ds))
      (.mk (.table (tableName fact.table) (some ⟨.bare "f", []⟩))
        ((joinsOf ds).map (lookupJoin (joinsOf ds)))) := by
  have hjoins :
      List.Forall₂ (IsJoin 2) ((joinsOf ds).map fun j => shown (lookupJoinLexemes (joinsOf ds) j))
        ((joinsOf ds).map (lookupJoin (joinsOf ds))) :=
    forall₂_map_map fun j _ => (isJoin_lookup _ j).mono (by decide)
  have hshown : ∀ js : List Join, shown (js.flatMap (lookupJoinLexemes (joinsOf ds))) =
      (js.map fun j => shown (lookupJoinLexemes (joinsOf ds) j)).flatten := by
    intro js
    induction js with
    | nil => rfl
    | cons j js ih => rw [List.flatMap_cons, shown_append, ih, List.map_cons, List.flatten_cons]
  rw [factSourceLexemes, shown_append, hshown]
  exact isSource (isTable_called fact.table (.bare "f")) hjoins

/-- **The range and the filters** are one conjunction. -/
theorem isExpr_factCondition (h : k.Parts q m ds rows)
    (hvalues : ∀ f ∈ q.filters.entries, f.2 ≠ []) :
    IsExpr 2 0 (shown (factConditionLexemes k.catalog.fact ds q))
      (conjunction (inRange (factDate k.catalog.fact) q.start q.stop)
        ((receivedQuery q).filters.entries.map fun f =>
          filterCondition (columnOf ds f.1) f.2)) := by
  have hrange : IsLeft 2 0 60 1
      (shown (inRangeLexemes (factDateLexemes k.catalog.fact) q.start q.stop))
      (inRange (factDate k.catalog.fact) q.start q.stop) :=
    isLeft_inRange ((isOperand_factDate _).mono (by decide)) (by decide) q.start q.stop
  rw [factConditionLexemes, shown_conjunction, receivedQuery]
  simp only [Filters.mapValues, List.map_map]
  refine hrange.conjunction (by decide) (forall₂_map_map fun f hf => ?_) (by decide : 1 < 2)
  exact isExpr_filter (h.isOperand_columnOf (mem_referenced_filters (List.mem_map_of_mem hf)))
    (hvalues f hf)

theorem isItem_facts (h : k.Parts q m ds rows) :
    List.Forall₂ (fun ls i => IsItem 2 (shown ls) i) (factItemLexemes k.catalog.fact m ds q)
      ((.aliased (factDate k.catalog.fact) (.bare Grain.day.column) ::
        .aliased (column "f" m.sourceColumn) (.bare "metric_input") :: denominatorItem m) ++
        q.dimensions.map fun d => .aliased (columnOf ds d) (.quoted d)) := by
  have hcolumn : ∀ c, IsExpr 2 0 (shown (columnLexemes "f" c)) (column "f" c) := fun c =>
    ((isOperand_column (free_own (by simp [ownNames])) c).mono (Nat.zero_le 2)).isExpr
  have hdate : IsExpr 2 0 (shown (factDateLexemes k.catalog.fact)) (factDate k.catalog.fact) :=
    ((isOperand_factDate _).mono (by decide)).isExpr
  have hdenominator : List.Forall₂ (fun ls i => IsItem 2 (shown ls) i) (denominatorLexemes m)
      (denominatorItem m) := by
    unfold denominatorLexemes denominatorItem
    cases m.aggregation <;> cases m.denominatorColumn
    case ratio.some => exact .cons (isItem_named (hcolumn _) (isTerm_column _ _) _) .nil
    all_goals exact .nil
  have hinputs : List.Forall₂ (fun ls i => IsItem 2 (shown ls) i)
      [aliasedLexemes (factDateLexemes k.catalog.fact) (.bare Grain.day.column),
        aliasedLexemes (columnLexemes "f" m.sourceColumn) (.bare "metric_input")]
      [.aliased (factDate k.catalog.fact) (.bare Grain.day.column),
        .aliased (column "f" m.sourceColumn) (.bare "metric_input")] :=
    .cons (isItem_named hdate ⟨by rintro _ ⟨⟩, rfl⟩ _)
      (.cons (isItem_named (hcolumn _) (isTerm_column _ _) _) .nil)
  refine List.rel_append (List.rel_append hinputs hdenominator) (forall₂_map_map fun d hd => ?_)
  have hd' := mem_referenced_dimensions hd
  exact isItem_named ((h.isOperand_columnOf hd').mono (Nat.zero_le 2)).isExpr
    (h.isTerm_columnOf hd') _

/-- **The table of fact rows.** -/
theorem isTableDef_facts (h : k.Parts q m ds rows) (hvalues : ∀ f ∈ q.filters.entries, f.2 ≠ []) :
    IsTableDef 3 (shown (factsTableLexemes k.catalog.fact m ds q))
      (factsTable k.catalog.fact m ds (receivedQuery q)) := by
  have hblock := isSimple_block false (isItem_facts h) (List.cons_ne_nil _ _)
    (.some (isSource_fact k.catalog.fact ds)) (.some (isExpr_factCondition h hvalues)) .nil
  exact isTableDef_named (by simp [ownNames]) [] hblock.isBody.isQuery

end

/-! ### The grid -/

theorem isSource_own {h : Nat} {w : String} (hw : w ∈ ownNames) :
    IsSource h (shown (tableLexemes [.bare w] none)) (only [.bare w]) :=
  isSource_only (List.cons_ne_nil _ _) (List.forall_mem_singleton.2 (free_own hw))

theorem isSource_factsTable {h : Nat} :
    IsSource h (shown (tableLexemes [.bare "facts"] none)) (only [.bare "facts"]) :=
  isSource_own (by simp [ownNames])

theorem isOperand_numeral (digits : String) :
    IsOperand 0 (shown [.fixed (.number digits false)]) (.number digits false) :=
  isOperand_number digits false

/-- There are no facts. -/
theorem isOperand_noFacts :
    IsOperand 2 (shown (notExistLexemes (selectLexemes false [[.fixed (.number "1" false)]]
        (some (tableLexemes [.bare "facts"] none)) none [])))
      (.exist true
        (ofSelect (selectFrom [.expr (.number "1" false)] [only [.bare "facts"]] none))) := by
  have hone : List.Forall₂ (fun ls i => IsItem 0 (shown ls) i) [[.fixed (.number "1" false)]]
      [.expr (.number "1" false)] :=
    .cons (isItem_expr (isOperand_numeral "1").isExpr ⟨by rintro _ ⟨⟩, rfl⟩) .nil
  have hblock := isSimple_block false hone (List.cons_ne_nil _ _)
    (.some isSource_factsTable) .none .nil
  rw [shown_notExist]
  exact isOperand_notExist hblock.isBody.isQuery

/-- **The combinations of dimensions,** when there are dimensions. -/
theorem isBody_combinations {dimensions : List String} (hne : dimensions ≠ []) :
    IsBody 2 (shown (combinationsLexemes dimensions)) (combinations dimensions) := by
  have hnames : List.Forall₂ (fun ls i => IsItem 2 (shown ls) i)
      (dimensions.map fun d => [Name.lexeme (.quoted d)])
      (dimensions.map fun d => .expr (.column [.quoted d])) := by
    refine forall₂_map_map fun d _ => isItem_expr ?_ ⟨by rintro _ ⟨⟩, rfl⟩
    rw [shown_name]
    exact ((isOperand_path (Name.free_quoted d) []).mono (Nat.zero_le 2)).isExpr
  have hnull : IsExpr 2 0 (shown (lits ["NULL"])) .null := by
    rw [shown_lits [kw "NULL"] (by simp [fixedTokens])]
    exact (isOperand_null.mono (Nat.zero_le 2)).isExpr
  have hnulls : List.Forall₂ (fun ls i => IsItem 2 (shown ls) i)
      (dimensions.map fun d => aliasedLexemes (lits ["NULL"]) (.quoted d))
      (dimensions.map fun d => .aliased .null (.quoted d)) :=
    forall₂_map_map fun d _ => isItem_named hnull ⟨by rintro _ ⟨⟩, rfl⟩ _
  have hsome :=
    isSimple_block true hnames (by simpa using hne) (.some isSource_factsTable) .none .nil
  have hnone := isSimple_block false hnulls (by simpa using hne) .none
    (.some isOperand_noFacts.isExpr) .nil
  rw [combinationsLexemes, shown_union]
  exact isBody_union hsome hnone

/-- The days with the combinations. -/
theorem isSource_grid {dimensions : List String} (hne : dimensions ≠ []) :
    IsSource 4
      (shown (tableLexemes [.bare "spine"] none ++
        joinLexemes ["CROSS", " ", "JOIN", " "] (lits ["("] ++ combinationsLexemes dimensions ++
          lits [")", " ", "AS", " "] ++ [Name.lexeme (.bare "dims")]) none))
      (.mk (.table [.bare "spine"] none)
        [.mk "CROSS JOIN" (.derived false (.mk none (combinations dimensions) [] [] [] "")
          (some ⟨.bare "dims", []⟩)) .free]) := by
  have hspine :
      IsTable 4 (shown (tableLexemes [.bare "spine"] none)) (.table [.bare "spine"] none) :=
    isTable_lexemes (free_own (by simp [ownNames])) [] none
  have hjoin := isJoin_cross (isTable_derived (isBody_combinations hne).isQuery (.bare "dims"))
  rw [shown_append, shown_join (y := [kw "CROSS", kw "JOIN"]) (by simp [fixedTokens]),
    shown_derived]
  simpa [clauseTokens] using isSource hspine (.cons hjoin .nil)

theorem isTableDef_grid (dimensions : List String) :
    IsTableDef 5 (shown (gridTableLexemes dimensions)) (gridTable dimensions) := by
  have hdays : List.Forall₂ (fun ls i => IsItem 4 (shown ls) i)
      (Grain.columns.map (plainColumnLexemes "spine"))
      (Grain.columns.map fun c => .expr (plainColumn "spine" c)) :=
    forall₂_map_map fun c _ => isItem_expr
      ((isOperand_plainColumn (by simp [ownNames])).mono (Nat.zero_le 4)).isExpr
        (isTerm_plainColumn _ _)
  unfold gridTableLexemes gridTable
  refine isTableDef_named (by simp [ownNames]) [] (IsBody.isQuery (IsSimple.isBody ?_))
  by_cases hnone : dimensions.isEmpty = true
  · rw [if_pos hnone, if_pos hnone]
    exact isSimple_block false hdays (List.cons_ne_nil _ _)
      (.some (isSource_own (by simp [ownNames])))
      .none .nil
  · have hcolumns : List.Forall₂ (fun ls i => IsItem 4 (shown ls) i)
        (dimensions.map (columnLexemes "dims")) (dimensions.map fun d => .expr (column "dims" d)) :=
      forall₂_map_map fun d _ => isItem_expr
        ((isOperand_column (free_own (by simp [ownNames])) d).mono (Nat.zero_le 4)).isExpr
        (isTerm_column _ _)
    rw [if_neg hnone, if_neg hnone]
    exact isSimple_block false (List.rel_append hdays hcolumns) (List.cons_ne_nil _ _)
      (.some (isSource_grid (by simpa using hnone))) .none .nil

/-! ### The final block -/

/-- A call as it is read: nothing more is said about it. -/
def readCall (function : String) (args : List Expr) : Expr :=
  .call [.bare function] "" args [] [.word ""]

/-- What is read of an aggregate. -/
def readAggregate (input denominator : Expr) : Aggregation → Expr
  | .sum => readCall "COALESCE" [readCall "SUM" [input], .number "0" false]
  | .avg => readCall "AVG" [input]
  | .count => readCall "COUNT" [input]
  | .ratio => .binary (.cast (.call "CAST") (readCall "SUM" [input]) "DOUBLE PRECISION" "") "/"
      (readCall "NULLIF" [readCall "SUM" [denominator], .number "0" false])

/-- The functions of aggregates. -/
def functions : List String := ["SUM", "AVG", "COUNT", "COALESCE", "NULLIF"]

section

variable {h : Nat} {e : Expr} {le : List Lexeme} {es : List Expr} {les : List (List Lexeme)}
    {f : String}

theorem shown_function (hf : f ∈ functions) (args : List (List Lexeme)) :
    shown (callLexemes f args) =
      kw f :: .symbol "(" :: (between "," (args.map shown) ++ [.symbol ")"]) := by
  refine shown_call ?_ args
  simp only [functions, List.mem_cons, List.not_mem_nil, or_false] at hf
  rcases hf with rfl | rfl | rfl | rfl | rfl <;> simp [fixedTokens]

/-- A call opens a bracket behind its name. -/
theorem opens_function (hf : f ∈ functions) (args : List (List Lexeme)) :
    Opens (shown (callLexemes f args)) := by
  have htoken := (formWords_free.1 f (List.mem_cons_of_mem _ (List.mem_cons_of_mem _
    (List.mem_cons_of_mem _ hf)))).1
  exact ⟨.bare f, "(", _, by rw [htoken, shown_function hf], by decide⟩

theorem isOperand_function (hf : f ∈ functions) (he : IsExpr h 0 (shown le) e)
    (hopens : Opens (shown le))
    (hes : List.Forall₂ (fun ls e => IsExpr h 0 (shown ls) e) les es) :
    IsOperand (h + 1) (shown (callLexemes f (le :: les))) (readCall f (e :: es)) := by
  rw [shown_function hf]
  exact isOperand_call hf he hopens (List.forall₂_map_left_iff.2 hes)

theorem isOperand_sum (he : IsOperand 0 (shown le) e) (hopens : Opens (shown le)) :
    IsOperand 1 (shown (callLexemes "SUM" [le])) (readCall "SUM" [e]) :=
  isOperand_function (by simp [functions]) he.isExpr hopens .nil

/-- A function of a sum and nought. -/
theorem isOperand_ofSum (hf : f ∈ functions) (he : IsOperand 0 (shown le) e)
    (hopens : Opens (shown le)) :
    IsOperand 2 (shown (callLexemes f [callLexemes "SUM" [le], [.fixed (.number "0" false)]]))
      (readCall f [readCall "SUM" [e], .number "0" false]) := by
  have hzero : IsExpr 1 0 (shown [.fixed (.number "0" false)]) (.number "0" false) :=
    ((isOperand_numeral "0").mono (Nat.zero_le 1)).isExpr
  exact isOperand_function hf (isOperand_sum he hopens).isExpr
    (opens_function (by simp [functions]) _)
    (.cons hzero .nil)

end

section

variable {input denominator : Expr} {li ld : List Lexeme} (hi : IsOperand 0 (shown li) input)
  (hio : Opens (shown li)) (hd : IsOperand 0 (shown ld) denominator) (hdo : Opens (shown ld))
include hi hio hd hdo

theorem isExpr_ratio :
    IsExpr 3 0 (shown (aggregateLexemes li ld .ratio))
      (readAggregate input denominator .ratio) := by
  have hcast := isOperand_cast (y := [kw "DOUBLE", kw "PRECISION"]) (isOperand_sum hi hio).isExpr
    (opens_function (by simp [functions]) _) reads_doubleType
  have hnull := isOperand_ofSum (f := "NULLIF") (by simp [functions]) hd hdo
  have hratio := (hcast.mono (by decide : 2 ≤ 3)).isLeft.binary
    (by simp [binaryOperators] : ("/", .symbol "/", 90) ∈ binaryOperators) hnull.isExpr (by decide)
    (by decide : 0 < 90) (Nat.le_refl 90)
  rw [aggregateLexemes, shown_binary (t := .symbol "/") (by simp [fixedTokens]),
    shown_cast (y := [kw "DOUBLE", kw "PRECISION"]) (by simp [fixedTokens])]
  exact hratio.isExpr (Nat.zero_le _)

/-- **Every aggregate is read** on at most three levels. -/
theorem isExpr_aggregate (a : Aggregation) :
    IsExpr 3 0 (shown (aggregateLexemes li ld a)) (readAggregate input denominator a) := by
  cases a with
  | sum => exact ((isOperand_ofSum (by simp [functions]) hi hio).mono (by decide)).isExpr
  | avg =>
    exact ((isOperand_function (by simp [functions]) hi.isExpr hio .nil).mono (by decide)).isExpr
  | count =>
    exact ((isOperand_function (by simp [functions]) hi.isExpr hio .nil).mono (by decide)).isExpr
  | ratio => exact isExpr_ratio hi hio hd hdo

end

/-- The aggregate of a metric as it is read. -/
def readValue (m : Metric) : Expr :=
  readAggregate (plainColumn "facts" "metric_input") (plainColumn "facts" "metric_denominator")
    m.aggregation

theorem isItem_value {h : Nat} (hh : 3 ≤ h) (m : Metric) :
    IsItem h (shown (valueLexemes m)) (.aliased (readValue m) (.quoted m.name)) := by
  have hfacts : "facts" ∈ ownNames := by simp [ownNames]
  have hvalue := isExpr_aggregate
    (isOperand_plainColumn (c := "metric_input") hfacts) (opens_path _ _)
    (isOperand_plainColumn (c := "metric_denominator") hfacts) (opens_path _ _) m.aggregation
  have hterm : IsTerm (readValue m) := by
    unfold readValue
    cases m.aggregation <;> exact ⟨by rintro _ ⟨⟩, rfl⟩
  exact isItem_named (hvalue.mono hh) hterm (.quoted m.name)

/-- **The terms that a query groups by** are columns of the grid. -/
theorem isGroup_terms (h : Nat) (q : MetricQuery) :
    List.Forall₂ (fun ls e => IsGroup h (shown ls) e) (groupTermLexemes q) (groupTerms q) := by
  have hgrid : (Name.bare "grid").Free := free_own (by simp [ownNames])
  refine .cons ⟨?_, .bare "grid", _, shown_path _⟩ (forall₂_map_map fun d _ =>
    ⟨?_, .bare "grid", _, shown_path _⟩)
  · exact ((isOperand_plainColumn (by simp [ownNames])).mono (Nat.zero_le h)).isExpr
  · exact ((isOperand_column hgrid d).mono (Nat.zero_le h)).isExpr

theorem isItem_terms (h : Nat) (q : MetricQuery) :
    List.Forall₂ (fun ls i => IsItem h (shown ls) i) (groupTermLexemes q)
      ((groupTerms q).map .expr) := by
  have hgrid : (Name.bare "grid").Free := free_own (by simp [ownNames])
  rw [groupTerms, List.map_cons, List.map_map]
  refine .cons (isItem_expr ?_ (isTerm_plainColumn _ _))
    (forall₂_map_map fun d _ => isItem_expr ?_ (isTerm_column _ _))
  · exact ((isOperand_plainColumn (by simp [ownNames])).mono (Nat.zero_le h)).isExpr
  · exact ((isOperand_column hgrid d).mono (Nat.zero_le h)).isExpr

/-- The tests that the facts have the dimensions of the grid. -/
def dimensionTests (q : MetricQuery) : List (List Token × List Token) :=
  q.dimensions.map fun d => (shown (columnLexemes "facts" d), shown (columnLexemes "grid" d))

/-- The condition that joins the facts to the grid, as it is read: each test of a dimension takes
in the tests behind it. -/
def readGridCondition (q : MetricQuery) : Expr :=
  readTests
    (.binary (plainColumn "facts" Grain.day.column) "=" (plainColumn "grid" Grain.day.column))
    (q.dimensions.map fun d => (column "facts" d, column "grid" d))

theorem shown_gridCondition (q : MetricQuery) :
    shown (gridConditionLexemes q) =
      shown (binaryLexemes (plainColumnLexemes "facts" Grain.day.column)
        (plainColumnLexemes "grid" Grain.day.column) "=") ++ testTokens (dimensionTests q) := by
  rw [gridConditionLexemes, shown_conjunction, List.map_map, testTokens, dimensionTests,
    List.flatMap_map, List.flatMap_map]
  simp only [Function.comp_apply, shown_distinct]

/-- The days of facts and grid are compared first. -/
theorem isLeft_gridDay {h : Nat} (hh : 0 < h) :
    IsLeft h 0 50 1 (shown (binaryLexemes (plainColumnLexemes "facts" Grain.day.column)
        (plainColumnLexemes "grid" Grain.day.column) "="))
      (.binary (plainColumn "facts" Grain.day.column) "=" (plainColumn "grid" Grain.day.column)) :=
  isLeft_equal (isOperand_plainColumn (by simp [ownNames]))
    (isOperand_plainColumn (by simp [ownNames]))
    hh (by decide)

/-- **The condition on the grid takes two levels for each dimension,** and cannot be read
with fewer. -/
theorem yields_gridCondition (q : MetricQuery) {b d : Nat} {rest : List Token} (hd : 0 < d)
    (hb : (shown (gridConditionLexemes q)).length < b) (hrest : Follows enders rest) :
    Yields ((level b d).expression 0) (shown (gridConditionLexemes q) ++ rest)
      (if 2 * q.dimensions.length ≤ d then some (readGridCondition q, rest) else none) := by
  have htests :
      List.Forall₂ (fun t e => IsOperand 0 t.1 e.1 ∧ IsOperand 0 t.2 e.2) (dimensionTests q)
        (q.dimensions.map fun d => (column "facts" d, column "grid" d)) :=
    forall₂_map_map fun d _ => ⟨isOperand_column (free_own (by simp [ownNames])) d,
      isOperand_column (free_own (by simp [ownNames])) d⟩
  have hlength : (shown (binaryLexemes (plainColumnLexemes "facts" Grain.day.column)
      (plainColumnLexemes "grid" Grain.day.column) "=")).length = 7 := by decide
  rw [shown_gridCondition, List.length_append] at hb
  obtain ⟨k, rfl⟩ : ∃ k, b = k + 1 := ⟨b - 1, by omega⟩
  have hchain := yields_tests (b := k + 1) (d := d) (k := k)
    (c := .binary (plainColumn "facts" Grain.day.column) "=" (plainColumn "grid" Grain.day.column))
    htests (by omega) (by omega) hrest
  rw [dimensionTests, List.length_map] at hchain
  rw [shown_gridCondition, List.append_assoc]
  exact (isLeft_gridDay hd).reads (Nat.le_refl d) (by omega)
    (ends_testTokens _ hrest (by decide)) hchain

theorem isExpr_gridCondition (q : MetricQuery) {h : Nat} (hh : 0 < h)
    (hdimensions : 2 * q.dimensions.length ≤ h) :
    IsExpr h 0 (shown (gridConditionLexemes q)) (readGridCondition q) where
  reads {b d rest} hd hb hrest := by
    have hread := yields_gridCondition q (Nat.lt_of_lt_of_le hh hd) hb hrest.follows
    rwa [if_pos (Nat.le_trans hdimensions hd)] at hread
  unnamed {rest} hrest := by
    rw [shown_gridCondition, List.append_assoc]
    exact (isLeft_gridDay hh).unnamed (ends_testTokens _ hrest (Nat.le_refl 20)).1
  start rest := by
    rw [shown_gridCondition, List.append_assoc]
    exact (isLeft_gridDay hh).start _

/-- The grid with the facts joined to it, as it is read. -/
def readFinalSource (q : MetricQuery) : Source :=
  .mk (.table [.bare "grid"] none)
    [.mk "LEFT JOIN" (.table [.bare "facts"] none) (.on (readGridCondition q))]

theorem shown_finalSource (q : MetricQuery) :
    shown (tableLexemes [.bare "grid"] none ++
        joinLexemes ["LEFT", " ", "JOIN", " "] (tableLexemes [.bare "facts"] none)
          (some (gridConditionLexemes q))) =
      shown (tableLexemes [.bare "grid"] none) ++ kw "LEFT" :: kw "JOIN" ::
        (shown (tableLexemes [.bare "facts"] none) ++ kw "ON" ::
          shown (gridConditionLexemes q)) := by
  rw [shown_append, shown_join (y := [kw "LEFT", kw "JOIN"]) (by simp [fixedTokens])]
  simp [clauseTokens]

theorem isTable_own (h : Nat) {w : String} (hw : w ∈ ownNames) :
    IsTable h (shown (tableLexemes [.bare w] none)) (.table [.bare w] none) :=
  isTable_lexemes (free_own hw) [] none

/-- The final block, as it is read. -/
def readFinalSelect (m : Metric) (q : MetricQuery) : Select :=
  .mk [] ((groupTerms q).map Item.expr ++ [.aliased (readValue m) (.quoted m.name)]) none
    [readFinalSource q] [] none (groupTerms q) [] none []

section

variable (m : Metric) (q : MetricQuery)

/-- **The final block is read** with enough levels for its dimensions. -/
theorem isBody_final {h : Nat} (hh : 3 ≤ h) (hdimensions : 2 * q.dimensions.length ≤ h) :
    IsBody h (shown (finalSelectLexemes m q)) (.select (readFinalSelect m q)) := by
  have hjoin := isJoin_left (isTable_own h (w := "facts") (by simp [ownNames]))
    (isExpr_gridCondition q (by omega) hdimensions)
  have hsource : IsSource h (shown (tableLexemes [.bare "grid"] none ++
      joinLexemes ["LEFT", " ", "JOIN", " "] (tableLexemes [.bare "facts"] none)
        (some (gridConditionLexemes q)))) (readFinalSource q) := by
    rw [shown_finalSource]
    simpa [readFinalSource] using
      isSource (isTable_own h (w := "grid") (by simp [ownNames])) (.cons hjoin .nil)
  exact (isSimple_block false (List.rel_append (isItem_terms h q) (.cons (isItem_value hh m) .nil))
    (List.cons_ne_nil _ _) (.some hsource) .none (isGroup_terms h q)).isBody

/-- The tokens of the final block, up to its condition. -/
theorem shown_finalSelect :
    shown (finalSelectLexemes m q) =
      kw "SELECT" :: (between "," ((groupTermLexemes q ++ [valueLexemes m]).map shown) ++
        kw "FROM" :: (shown (tableLexemes [.bare "grid"] none) ++ kw "LEFT" :: kw "JOIN" ::
          (shown (tableLexemes [.bare "facts"] none) ++ kw "ON" ::
            (shown (gridConditionLexemes q) ++
            groupTokens ((groupTermLexemes q).map shown))))) := by
  rw [finalSelectLexemes, shown_select, Option.map_some, shown_finalSource]
  simp [clauseTokens, groupTokens]

/-- **The final block is not read** with too few levels for its dimensions. -/
theorem refuses_final {b d : Nat} {r : List Token} (hd : 3 < d)
    (hdimensions : d ≤ 2 * q.dimensions.length)
    (hb : (shown (finalSelectLexemes m q)).length < b) :
    Refuses (level b d).body (shown (finalSelectLexemes m q) ++ r) := by
  rw [shown_finalSelect] at hb ⊢
  simp only [List.length_cons, List.length_append] at hb
  simp only [List.cons_append, List.append_assoc]
  obtain ⟨d, rfl⟩ : ∃ c, d = c + 1 := ⟨d - 1, by omega⟩
  have hgroup : Follows enders (groupTokens ((groupTermLexemes q).map shown) ++ r) :=
    .cons (by simp [enders])
  have hcondition : Refuses (level b (d + 1)).whole (shown (gridConditionLexemes q) ++
      (groupTokens ((groupTermLexemes q).map shown) ++ r)) := by
    have hread := yields_gridCondition q (b := b) (d := d) (by omega) (by omega) hgroup
    rwa [if_neg (by omega)] at hread
  have hjoin := yields_leftJoin (isTable_own 0 (w := "facts") (by simp [ownNames])) (Nat.zero_le _)
    (b := b) (by omega) hcondition
  have hsource := refuses_source (isTable_own 0 (w := "grid") (by simp [ownNames])) (Nat.zero_le _)
    (b := b) (by omega) (.cons (by simp [tableEnders, joinEnders])) hjoin
  have hitems : List.Forall₂ (IsItem 3) ((groupTermLexemes q ++ [valueLexemes m]).map shown)
      ((groupTerms q).map Item.expr ++ [.aliased (readValue m) (.quoted m.name)]) :=
    List.forall₂_map_left_iff.2
      (List.rel_append (isItem_terms 3 q) (.cons (isItem_value (Nat.le_refl 3) m) .nil))
  have hblock := refuses_block hitems (List.cons_ne_nil _ _) hd (by omega) hsource
  exact Yields.bind_refuses (.bind_true (reads_takes (isKeyword_kw "SELECT")) hblock.bind_refuses)

end

/-! ### Statements -/

/-- What is read of the statement of a query. -/
def readStatement (body : Body) (fact : FactTable) (m : Metric) (ds : List Dimension)
    (q : MetricQuery) : Query :=
  .mk (some (.mk false
      [spineTable body, factsTable fact m ds (receivedQuery q), gridTable q.dimensions]))
    (.select (readFinalSelect m q)) ((groupTerms q).map fun e => (e, "")) [] [] ""

section

variable {k : Compiler} {q : MetricQuery} {m : Metric} {ds : List Dimension} {rows : List DayRow}

/-- The tables of a statement. -/
theorem isTableDef_tables (h : k.Parts q m ds rows) (hrows : rows ≠ [])
    (hvalues : ∀ f ∈ q.filters.entries, f.2 ≠ []) :
    List.Forall₂ (IsTableDef 5)
      ([spineTableLexemes (spineBodyLexemes k.source rows q.start q.stop),
        factsTableLexemes k.catalog.fact m ds q, gridTableLexemes q.dimensions].map shown)
      [spineTable (spineBody k.source rows q.start q.stop),
        factsTable k.catalog.fact m ds (receivedQuery q), gridTable q.dimensions] :=
  List.forall₂_map_left_iff.2
    (.cons ((isTableDef_spine k.source hrows q.start q.stop).mono (by decide))
    (.cons ((isTableDef_facts h hvalues).mono (by decide))
      (.cons (isTableDef_grid q.dimensions) .nil)))

/-- **A statement is read if its final block is,** which takes two levels for each dimension. -/
theorem yields_statement (h : k.Parts q m ds rows) (hrows : rows ≠ [])
    (hvalues : ∀ f ∈ q.filters.entries, f.2 ≠ []) {b d : Nat} (hd : 5 < d)
    (hb : (shown (statementLexemes k m ds rows q)).length < b) :
    Yields (Grammar.queryAbove (level b d)) (shown (statementLexemes k m ds rows q))
      (if 2 * q.dimensions.length < d then
        some (readStatement (spineBody k.source rows q.start q.stop) k.catalog.fact m ds q, [])
      else none) := by
  have htables := isTableDef_tables h hrows hvalues
  rw [statementLexemes, shown_query] at hb ⊢
  by_cases hdimensions : 2 * q.dimensions.length < d
  · obtain ⟨c, rfl⟩ : ∃ c, d = c + 1 := ⟨d - 1, by omega⟩
    have hbody := isBody_final m q (h := c) (by omega) (by omega)
    have horder : List.Forall₂ (IsExpr c 0) ((groupTermLexemes q).map shown) (groupTerms q) :=
      List.forall₂_map_left_iff.2 ((isGroup_terms c q).imp fun _ _ hg => hg.expr)
    rw [if_pos hdimensions]
    exact reads_orderedQuery (htables.imp fun _ _ ht => ht.mono (by omega))
      (List.cons_ne_nil _ _) hbody
      horder (List.cons_ne_nil _ _) (Nat.lt_succ_self c) hb
  · simp only [List.length_cons, List.length_append] at hb
    have hfinal := refuses_final m q (b := b) (d := d) (by omega) (by omega) (by omega)
      (r := kw "ORDER" :: kw "BY" :: between "," ((groupTermLexemes q).map shown))
    have hstart : StartsBody (shown (finalSelectLexemes m q)) := by
      rw [shown_finalSelect]
      exact ⟨"SELECT", _, rfl, by simp⟩
    rw [if_neg hdimensions]
    exact refuses_query htables (List.cons_ne_nil _ _) (hstart.append _) hfinal hd (by omega)

end

end SemanticLayer.Compiler
