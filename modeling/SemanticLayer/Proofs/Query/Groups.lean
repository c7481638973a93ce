import SemanticLayer.Proofs.Query.Meetings

/-
# The groups of a statement and their values

The meetings on the grid are grouped by period and combination.  A group has a
line with its key and, from the aggregate over its rows, the value of the metric
over the rows that are counted there (`Compiler.lines_finalSelect`).  Lines are
ordered by their keys, the earlier periods first.
-/

namespace SemanticLayer

open Sql

/-! ### Groups and their order -/

/-- Taking repetitions away looks at nothing but which elements are equal. -/
theorem firstOccurrences_go_map {α β : Type} [BEq α] [LawfulBEq α] [BEq β] [LawfulBEq β] {f : α → β}
    (hf : Function.Injective f) (seen xs : List α) :
    firstOccurrences.go (seen.map f) (xs.map f) = (firstOccurrences.go seen xs).map f := by
  induction xs generalizing seen with
  | nil => rfl
  | cons x xs ih =>
    have hseen : (seen.map f).contains (f x) = seen.contains x := by
      rw [Bool.eq_iff_iff, List.contains_iff_mem, List.contains_iff_mem, List.mem_map_of_injective hf]
    rw [List.map_cons, firstOccurrences.go, firstOccurrences.go, hseen]
    by_cases hx : seen.contains x = true
    · rw [if_pos hx, if_pos hx, ih]
    · rw [if_neg hx, if_neg hx, ← List.map_cons, ih, List.map_cons]

namespace Sql

/-- **Rows that stand for something are grouped as that is.** -/
theorem groupsOf_map {α β : Type} [BEq β] [LawfulBEq β] [DecidableEq β] {row : α → Joined} {key : Joined → List Value}
    {of : α → β} {code : β → List Value} (hcode : Function.Injective code) {xs : List α}
    (hkey : ∀ x ∈ xs, key (row x) = code (of x)) :
    groupsOf true key (xs.map row) =
      (firstOccurrences (xs.map of)).map fun b => (xs.filter fun x => of x = b).map row := by
  have hkeys : (xs.map row).map key = (xs.map of).map code := by
    rw [List.map_map, List.map_map]
    exact List.map_congr_left hkey
  have hfirst : firstOccurrences ((xs.map of).map code) = (firstOccurrences (xs.map of)).map code :=
    firstOccurrences_go_map hcode [] _
  rw [groupsOf, if_pos rfl, hkeys, hfirst, List.map_map]
  refine List.map_congr_left fun b _ => ?_
  rw [Function.comp_apply, List.filter_map]
  refine congrArg _ (List.filter_congr fun x hx => ?_)
  rw [Function.comp_apply, hkey x hx, decide_eq_decide, hcode.eq_iff]

section

variable (db : Engine)

theorem Engine.listLe_trans (a b c : List Value) (hab : db.listLe a b = true)
    (hbc : db.listLe b c = true) : db.listLe a c = true := by
  induction a generalizing b c with
  | nil => rfl
  | cons x a ih =>
    match b, c with
    | [], _ => cases hab
    | _ :: _, [] => cases hbc
    | y :: b, z :: c =>
      simp only [Engine.listLe, Bool.and_eq_true, Bool.or_eq_true, Bool.not_eq_true'] at hab hbc ⊢
      obtain ⟨hxy, hrest⟩ := hab
      obtain ⟨hyz, hrest'⟩ := hbc
      refine ⟨db.le_trans x y z hxy hyz, ?_⟩
      cases hzx : db.le z x with
      | false => exact .inl rfl
      | true =>
        have hyx : db.le y x = true := db.le_trans y z x hyz hzx
        have hzy : db.le z y = true := db.le_trans z x y hzx hxy
        refine .inr (ih b c (hrest.resolve_left ?_) (hrest'.resolve_left ?_))
        · simp [hyx]
        · simp [hzy]

theorem Engine.listLe_total (a b : List Value) : (db.listLe a b || db.listLe b a) = true := by
  induction a generalizing b with
  | nil => rfl
  | cons x a ih =>
    match b with
    | [] => rfl
    | y :: b =>
      have hhead := db.le_total x y
      have hrest := ih b
      simp only [Engine.listLe]
      cases hxy : db.le x y <;> cases hyx : db.le y x <;> simp_all

end

/-- A block with groups has one line for each of them. -/
theorem Select.lines_groups (db : Engine) (tables : Tables) (items : List Item) (s : Source)
    (term : Expr) (terms : List Expr) :
    Select.lines db tables (.mk [] items none [s] [] none (term :: terms) [] none []) =
      (groupsOf true (fun row => (term :: terms).map (Expr.value db tables [row]))
        (s.rows db tables)).map fun group => ⟨group, items.map (Item.value db tables group)⟩ := by
  change List.map (fun group => (⟨group, Item.values db tables group items⟩ : Line)) (groupsOf true
    (fun row => Expr.values db tables [row] (term :: terms)) (Source.joined db tables [[]] [s])) = _
  rw [Source.joined_single]
  simp only [Item.values_eq_map, Expr.values_eq_map]

end Sql

/-! ### Aggregates -/

namespace Sql.Value

/-- `NULLIF(v, 0)`. -/
def nonzero (v : Value) : Value := if v = number 0 then null else v

/-- **A quotient of sums** is null without a dividend, and with a divisor that is zero or none. -/
theorem quotient_sum (vs ws : List Value) :
    (sum vs).quotient (nonzero (sum ws)) =
      if numbers vs = [] ∨ (numbers ws).sum = 0 then null
      else number ((numbers vs).sum / (numbers ws).sum) := by
  by_cases hvs : numbers vs = []
  · rw [if_pos (.inl hvs), sum, if_pos hvs]
    rfl
  · by_cases hws : numbers ws = []
    · have hzero : (numbers ws).sum = 0 := by rw [hws, List.sum_nil]
      rw [if_pos (.inr hzero), sum, if_neg hvs, sum, if_pos hws]
      rfl
    · rw [sum, if_neg hvs, sum, if_neg hws, nonzero]
      by_cases hzero : (numbers ws).sum = 0
      · rw [if_pos (congrArg number hzero), if_pos (.inr hzero)]
        rfl
      · rw [if_neg fun h => hzero (number.inj h), quotient, if_neg hzero,
          if_neg (not_or.2 ⟨hvs, hzero⟩)]

end Sql.Value

section

variable (db : Engine) (tables : Tables) (group : List Joined)

/-- The arguments of an aggregate are the values in the rows of the group. -/
theorem Aggregation.filterMap_argument (e : Expr) :
    (group.map fun row => Expr.values db tables [row] [e]).filterMap List.head? =
      group.map fun row => e.value db tables [row] := by
  rw [List.filterMap_map]
  exact congrFun List.filterMap_eq_map' _

/-- A sum is over the values in the rows of the group. -/
theorem Aggregation.value_sumOf (e : Expr) :
    (expr.apply "SUM" [e]).value db tables group =
      Value.sum (group.map fun row => e.value db tables [row]) :=
  congrArg Value.sum (filterMap_argument db tables group e)

theorem Aggregation.value_zero : (Expr.number "0" false).value db tables group = .number 0 := by
  have hdigits : "0".toNat? = some 0 := Nat.toNat?_repr 0
  change "0".toNat?.elim Value.null (fun n => .number n) = _
  rw [hdigits]
  rfl

/-- A dividend is a sum as a double. -/
theorem Aggregation.value_dividend (e : Expr) :
    (Expr.cast (.call "CAST") (expr.apply "SUM" [e]) "DOUBLE PRECISION" "").value db
        tables group =
      Value.sum (group.map fun row => e.value db tables [row]) := by
  change db.cast "DOUBLE PRECISION" ((expr.apply "SUM" [e]).value db tables group) = _
  rw [value_sumOf, Engine.cast, if_neg (by decide), if_pos rfl]

/-- A divisor is a sum that is not zero. -/
theorem Aggregation.value_divisor (e : Expr) :
    (expr.apply "NULLIF" [expr.apply "SUM" [e], .number "0" false]).value db
        tables group =
      Value.nonzero (Value.sum (group.map fun row => e.value db tables [row])) := by
  change callValue [.bare "NULLIF"] [Expr.value db tables group _, Expr.value db tables group _]
    _ = _
  rw [value_sumOf, value_zero]
  rfl

/-- Doubles are divided without a remainder. -/
theorem Aggregation.operate_divide (e right : Expr) (a b : Value) :
    db.operate (.cast (.call "CAST") e "DOUBLE PRECISION" "") "/" right a b = a.quotient b := by
  have hdouble : (Expr.cast (.call "CAST") e "DOUBLE PRECISION" "").isDouble = true :=
    decide_eq_true (p := "DOUBLE PRECISION" = "DOUBLE PRECISION") rfl
  rw [Engine.operate, if_neg (by decide), if_neg (by decide), if_pos ⟨rfl, hdouble⟩]

/-- **An aggregate has the value of its inputs and denominators** in the rows of a group. -/
theorem Aggregation.value_expr (input denominator : Expr) (a : Aggregation) :
    (a.expr input denominator).value db tables group =
      a.total (group.map fun row => input.value db tables [row])
        (group.map fun row => denominator.value db tables [row]) := by
  cases a with
  | sum =>
    change callValue [.bare "COALESCE"] [_, _] _ = _
    rw [value_sumOf, value_zero]
    change ((Value.present [_, .number 0]).head?).getD .null = .number (Value.numbers _).sum
    unfold Value.sum
    split
    · rename_i hnone
      rw [hnone]
      rfl
    · rfl
  | avg => exact congrArg Value.average (filterMap_argument db tables group input)
  | count => exact congrArg Value.count (filterMap_argument db tables group input)
  | ratio =>
    change db.operate _ "/" _ (Expr.value db tables group _) (Expr.value db tables group _) = _
    rw [operate_divide, value_dividend, value_divisor]
    exact Value.quotient_sum _ _

end

/-- Only a ratio looks at denominators. -/
theorem Aggregation.total_eq {a : Aggregation} (h : a ≠ .ratio)
    (inputs denominators denominators' : List Value) :
    a.total inputs denominators = a.total inputs denominators' := by
  cases a with
  | ratio => exact absurd rfl h
  | sum => rfl
  | avg => rfl
  | count => rfl

/-- Nulls in place of missing rows are no values. -/
theorem Sql.Value.present_elim {α β : Type} (f : β → Value) (xs : List (α × Option β)) :
    present (xs.map fun x => x.2.elim .null f) = present ((xs.filterMap Prod.snd).map f) := by
  induction xs with
  | nil => rfl
  | cons x xs ih =>
    match x with
    | (_, none) => exact ih
    | (_, some y) =>
      change present (f y :: _) = present (f y :: _)
      simp only [present, List.filter_cons] at ih ⊢
      rw [ih]

/-- **The value of a metric takes rows as they come.** -/
theorem MetricQuery.total_congr (c : Catalog) (tables : Tables) (m : Metric)
    {rows rows' : List (List Value)} (h : rows.Perm rows') :
    total c tables m rows = total c tables m rows' :=
  Aggregation.total_congr ((h.map _).filter _) ((h.map _).filter _)

namespace Compiler

section

variable {c : Catalog} {db : Engine} {base tables : Tables} {m : Metric} {q : MetricQuery}

/-! ### Lines -/

/-- The values of the terms that a key is grouped by. -/
def code (key : Date × List Value) : List Value := .day key.1 :: key.2

theorem code_injective : Function.Injective code := by
  intro key key' h
  obtain ⟨hperiod, hcombination⟩ := List.cons.inj h
  exact Prod.ext (Value.day.inj hperiod) hcombination

/-- The terms have the values of the key of the first meeting of a group. -/
theorem value_groupTerms (tables : Tables) (hgrid : (Grain.columns ++ q.dimensions).Nodup)
    {x : Meeting} (hx : q.dimensions.length = x.1.2.length) (more : List Joined) :
    (groupTerms q).map (Expr.value db tables (meetingRow c db base m q x :: more)) =
      code (q.keyOf x.1) := by
  have hgrain : q.grain.column ∈ ownNames :=
    mem_ownNames_of_mem_columns _ (List.mem_map_of_mem (by cases q.grain <;> decide))
  rw [groupTerms, List.map_cons, value_plainColumn db tables (by decide) hgrain, List.headD_cons,
    get_grid, valueAt_period hgrid, List.map_map]
  refine congrArg (_ :: ·) (Eq.trans ?_ (map_valueAt_dimensions hgrid hx))
  refine List.map_congr_left fun d _ => ?_
  rw [Function.comp_apply, value_ownColumn db tables (by decide), List.headD_cons, get_grid]

/-- **The aggregate has the value of the metric** over the rows of the meetings. -/
theorem value_aggregate (tables : Tables) (hm : m.Spelled)
    (hcolumns : (inputColumns m ++ q.dimensions).Nodup) (xs : List Meeting) :
    (m.aggregation.expr (plainColumn "facts" "metric_input")
      (plainColumn "facts" "metric_denominator")).value db tables
        (xs.map (meetingRow c db base m q)) =
      MetricQuery.total c base m (xs.filterMap Prod.snd) := by
  have hinput : ∀ x : Meeting, (plainColumn "facts" "metric_input").value db tables
      [meetingRow c db base m q x] = x.2.elim .null fun row => c.input base row m.sourceColumn := by
    intro x
    rw [value_plainColumn db tables (by decide) (by decide), List.headD_cons, get_facts]
    cases x.2 with
    | none => rfl
    | some row => exact valueAt_input hm hcolumns row
  rw [Aggregation.value_expr, List.map_map, List.map_map, MetricQuery.total]
  simp only [Function.comp_def, hinput]
  by_cases hratio : m.aggregation = .ratio
  · obtain ⟨column, hcolumn, -⟩ := hm.denominator hratio
    have hdenominator : ∀ x : Meeting, (plainColumn "facts" "metric_denominator").value db tables
        [meetingRow c db base m q x] =
          x.2.elim .null fun row => m.denominatorColumn.elim .null (c.input base row) := by
      intro x
      rw [value_plainColumn db tables (by decide) (by decide), List.headD_cons, get_facts, hcolumn]
      cases x.2 with
      | none => rfl
      | some row => exact valueAt_denominator hm hcolumns row hratio hcolumn
    simp only [hdenominator]
    exact Aggregation.total_congr (.of_eq (Value.present_elim ..)) (.of_eq (Value.present_elim ..))
  · rw [Aggregation.total_eq hratio _ (List.map _ _)]
    exact Aggregation.total_congr (.of_eq (Value.present_elim ..)) (.refl _)

/-- The rows of a group. -/
def groupOf (c : Catalog) (db : Engine) (base : Tables) (m : Metric) (q : MetricQuery)
    (rows : List DayRow) (key : Date × List Value) : List Joined :=
  ((q.meetings c db base rows).filter fun x => q.keyOf x.1 = key).map (meetingRow c db base m q)

/-- A key is the key of some meeting, and its group has the values of the key. -/
theorem value_groupOf {rows : List DayRow} (tables : Tables)
    (hgrid : (Grain.columns ++ q.dimensions).Nodup) {key : Date × List Value}
    (hkey : key ∈ (q.meetings c db base rows).map fun x => q.keyOf x.1) :
    (groupTerms q).map (Expr.value db tables (groupOf c db base m q rows key)) = code key := by
  obtain ⟨x, more, hgroup⟩ : ∃ x more, (q.meetings c db base rows).filter
      (fun x => q.keyOf x.1 = key) = x :: more := by
    obtain ⟨x, hx, hxkey⟩ := List.mem_map.1 hkey
    exact List.exists_cons_of_ne_nil
      (List.ne_nil_of_mem (List.mem_filter.2 ⟨hx, decide_eq_true hxkey⟩))
  obtain ⟨hx, hxkey⟩ := List.mem_filter.1 (hgroup ▸ List.mem_cons_self : x ∈ List.filter _ _)
  rw [groupOf, hgroup, List.map_cons,
    value_groupTerms tables hgrid (MetricQuery.length_of_mem_meetings hx),
    of_decide_eq_true hxkey]

/-- **The final block has a line for each key,** with the value over the rows that are counted
there. -/
theorem lines_finalSelect {rows : List DayRow} (hm : m.Spelled)
    (hcolumns : (inputColumns m ++ q.dimensions).Nodup)
    (hgrid : (Grain.columns ++ q.dimensions).Nodup) (hrows : DayRows rows q.start q.stop)
    (hplaces : tables ["grid"] =
      ⟨Grain.columns ++ q.dimensions, (rows ×ˢ q.combinations c db base).map Place.values⟩)
    (hfacts : tables ["facts"] = countedTable c db base m q) :
    Select.lines db tables (finalSelect m q) =
      (firstOccurrences ((q.meetings c db base rows).map fun x => q.keyOf x.1)).map fun key =>
        ⟨groupOf c db base m q rows key,
          code key ++ [MetricQuery.total c base m (q.countedIn c db base key)]⟩ := by
  rw [finalSelect, groupTerms, Select.lines_groups, ← groupTerms,
    rows_final hm hcolumns hgrid hplaces hfacts,
    groupsOf_map code_injective fun x hx => value_groupTerms tables hgrid
      (MetricQuery.length_of_mem_meetings hx) [], List.map_map]
  refine List.map_congr_left fun key hkey => ?_
  have hterms := value_groupOf (m := m) tables hgrid (mem_firstOccurrences.1 hkey)
  have haggregate : (m.aggregation.expr (plainColumn "facts" "metric_input")
      (plainColumn "facts" "metric_denominator")).value db tables
        (groupOf c db base m q rows key) =
      MetricQuery.total c base m (q.countedIn c db base key) := by
    rw [groupOf, value_aggregate tables hm hcolumns]
    exact MetricQuery.total_congr c base m (MetricQuery.perm_countedIn hrows key)
  have hitems : ((groupTerms q).map Item.expr ++ [Item.aliased (m.aggregation.expr
      (plainColumn "facts" "metric_input") (plainColumn "facts" "metric_denominator"))
        (.quoted m.name)]).map (Item.value db tables (groupOf c db base m q rows key)) =
      code key ++ [MetricQuery.total c base m (q.countedIn c db base key)] := by
    rw [List.map_append, List.map_map, ← hterms, ← haggregate]
    rfl
  exact congrArg (Line.mk (groupOf c db base m q rows key)) hitems

end

end Compiler

end SemanticLayer
