import SemanticLayer.Catalog.Catalog
import SemanticLayer.Proofs.Requirement

/-
# Well-formed models

What a model has to be like, said without its checks (`Model.WellFormed`), and
what the checks ask, in their order and each with its error
(`Model.requirements`).  The checks enforce what they ask (`Model.enforces_check`),
and that is that the model is well-formed (`Model.check_eq_ok`).

| spelling | written |
| --- | --- |
| identifier | `[A-Za-z_][A-Za-z0-9_]*` |
| table | one or more identifiers with dots between them |

The name of the model itself is no name in a statement; like labels and
descriptions it may be any text.
-/

namespace SemanticLayer

/-! ### Spellings -/

/-- A letter or an underscore. -/
def IsLetter (c : Char) : Prop := 'A' ≤ c ∧ c ≤ 'Z' ∨ 'a' ≤ c ∧ c ≤ 'z' ∨ c = '_'

/-- A letter, followed by letters and digits. -/
def IsIdentifier (s : String) : Prop :=
  ∃ first rest, s.toList = first :: rest ∧ IsLetter first ∧
    ∀ c ∈ rest, IsLetter c ∨ '0' ≤ c ∧ c ≤ '9'

/-- Identifiers with dots between them. -/
def IsTableName (s : String) : Prop :=
  ∃ parts : List String, parts ≠ [] ∧ (∀ part ∈ parts, IsIdentifier part) ∧ s = ".".intercalate parts

namespace Identifier

theorem isStart_iff {c : Char} : isStart c = true ↔ IsLetter c := by
  have hupper : c.isUpper = true ↔ 'A' ≤ c ∧ c ≤ 'Z' := decide_eq_true_iff
  have hlower : c.isLower = (decide ('a' ≤ c) && decide (c ≤ 'z')) := rfl
  have hstart : isStart c = (c.isUpper || c.isLower || c == '_') := rfl
  rw [hstart, hlower, Bool.or_eq_true, Bool.or_eq_true, hupper, Bool.and_eq_true,
    decide_eq_true_eq, decide_eq_true_eq, beq_iff_eq, or_assoc, IsLetter]

theorem isPart_iff {c : Char} : isPart c = true ↔ IsLetter c ∨ '0' ≤ c ∧ c ≤ '9' := by
  have hsame : isPart c = (isStart c || c.isDigit) := by
    simp only [isPart, isStart, Char.isAlphanum]
    cases c.isAlpha <;> cases c.isDigit <;> simp
  have hdigit : c.isDigit = (decide ('0' ≤ c) && decide (c ≤ '9')) := rfl
  rw [hsame, Bool.or_eq_true, isStart_iff, hdigit, Bool.and_eq_true, decide_eq_true_eq,
    decide_eq_true_eq]

/-- **The check of characters** accepts the identifiers. -/
theorem ok_iff {s : String} : ok s.toList = true ↔ IsIdentifier s := by
  unfold IsIdentifier
  cases s.toList with
  | nil => exact ⟨nofun, fun ⟨_, _, h, _⟩ => nomatch h⟩
  | cons first rest =>
    rw [ok, Bool.and_eq_true, List.all_eq_true, isStart_iff]
    simp only [isPart_iff]
    constructor
    · exact fun h => ⟨first, rest, rfl, h⟩
    · rintro ⟨_, _, ⟨⟩, h⟩
      exact h

/-- The parts of a text are those between its dots. -/
theorem parts_eq_splitOn (cs : List Char) : parts cs = cs.splitOn '.' := by
  induction cs with
  | nil => rfl
  | cons c rest ih =>
    rw [List.splitOn] at ih
    rw [parts, ih, List.splitOn, List.splitOnP_cons_eq_if_modifyHead]
    simp only [beq_iff_eq]
    split
    · rfl
    · cases h : rest.splitOnP (· == '.') with
      | nil => exact absurd h (List.splitOnP_ne_nil _ _)
      | cons part more => rfl

/-- Identifiers have no dots. -/
theorem dot_not_mem {s : String} (h : IsIdentifier s) : '.' ∉ s.toList := by
  have hdot : ¬ (isPart '.' = true) := by decide
  obtain ⟨first, rest, hs, hfirst, hrest⟩ := h
  rw [isPart_iff] at hdot
  rw [hs]
  intro hmem
  rcases List.mem_cons.1 hmem with rfl | hmem
  · exact hdot (.inl hfirst)
  · exact hdot (hrest _ hmem)

/-- **The check of parts** accepts the names of tables. -/
theorem tableOk_iff {s : String} : tableOk s = true ↔ IsTableName s := by
  have hpoint : ".".toList = ['.'] := rfl
  rw [tableOk, parts_eq_splitOn, List.all_eq_true]
  constructor
  · intro h
    refine ⟨(s.toList.splitOn '.').map String.ofList, ?_, ?_, ?_⟩
    · simp
    · intro part hpart
      obtain ⟨cs, hcs, rfl⟩ := List.mem_map.1 hpart
      exact ok_iff.1 (by rw [String.toList_ofList]; exact h cs hcs)
    · refine String.toList_injective ?_
      have hsame : ((s.toList.splitOn '.').map String.ofList).map String.toList =
          s.toList.splitOn '.' := by simp
      rw [String.toList_intercalate, hsame, hpoint, List.intercalate_splitOn]
  · rintro ⟨parts, hne, hparts, rfl⟩
    have hdots : ∀ cs ∈ parts.map String.toList, '.' ∉ cs :=
      List.forall_mem_map.2 fun part hpart => dot_not_mem (hparts part hpart)
    rw [String.toList_intercalate, hpoint, List.splitOn_intercalate '.' hdots (by simpa using hne)]
    exact List.forall_mem_map.2 fun part hpart => ok_iff.2 (hparts part hpart)

end Identifier

/-! ### Well-formed models -/

structure Join.WellFormed (j : Join) : Prop where
  table : IsTableName j.table
  foreignKey : IsIdentifier j.foreignKey
  primaryKey : IsIdentifier j.primaryKey

structure Dimension.WellFormed (d : Dimension) : Prop where
  name : IsIdentifier d.name
  sourceColumn : IsIdentifier d.sourceColumn
  join : ∀ j, d.join = some j → j.WellFormed

/-- A metric of a model with dimensions of the given names. -/
structure Metric.WellFormed (dimensions : List String) (m : Metric) : Prop where
  name : IsIdentifier m.name
  sourceColumn : IsIdentifier m.sourceColumn
  denominatorColumn : ∀ column, m.denominatorColumn = some column → IsIdentifier column
  ratio : m.denominatorColumn.isSome ↔ m.aggregation = .ratio
  allowed : ∀ d ∈ m.allowedDimensions, d ∈ dimensions

structure Model.WellFormed (m : Model) : Prop where
  factTable : IsTableName m.fact.table
  dateColumn : IsIdentifier m.fact.dateColumn
  dimensions : ∀ d ∈ m.dimensions, d.WellFormed
  dimensionNames : (m.dimensions.map Dimension.name).Nodup
  metrics : ∀ x ∈ m.metrics, x.WellFormed (m.dimensions.map Dimension.name)
  metricNames : (m.metrics.map Metric.name).Nodup

/-! ### What the checks ask -/

/-- A text is asked to be an identifier. -/
def identifierRequirement (value context : String) : Requirement CatalogError :=
  ⟨IsIdentifier value, .invalidIdentifier context value⟩

/-- A text is asked to be the name of a table. -/
def tableRequirement (value context : String) : Requirement CatalogError :=
  ⟨IsTableName value, .invalidIdentifier context value⟩

/-- A name is asked to be none of those before it. -/
def newRequirement (kind : EntryKind) (earlier : List String) (name : String) :
    Requirement CatalogError :=
  ⟨name ∉ earlier, .duplicateName kind name⟩

/-- What is asked of the way from the fact table to that of a dimension. -/
def Join.requirements (dimension : String) (j : Join) : List (Requirement CatalogError) :=
  [tableRequirement j.table dimension, identifierRequirement j.foreignKey dimension,
    identifierRequirement j.primaryKey dimension]

def Dimension.requirements (earlier : List String) (d : Dimension) :
    List (Requirement CatalogError) :=
  identifierRequirement d.name "dimension name" :: identifierRequirement d.sourceColumn d.name ::
    (d.join.toList.flatMap (Join.requirements d.name) ++ [newRequirement .dimension earlier d.name])

/-- A ratio is asked to have a denominator, any other metric to have none, and a denominator to be
an identifier. -/
def Metric.denominatorRequirements (m : Metric) : List (Requirement CatalogError) :=
  ⟨m.aggregation = .ratio → m.denominatorColumn.isSome, .missingDenominator m.name⟩ ::
    ⟨m.denominatorColumn.isSome → m.aggregation = .ratio, .unexpectedDenominator m.name⟩ ::
    m.denominatorColumn.toList.map fun column => identifierRequirement column m.name

def Metric.requirements (dimensions earlier : List String) (m : Metric) :
    List (Requirement CatalogError) :=
  identifierRequirement m.name "metric name" :: identifierRequirement m.sourceColumn m.name ::
    (m.denominatorRequirements ++
      (m.allowedDimensions.map fun d => ⟨d ∈ dimensions, .undefinedAllowedDimension m.name d⟩) ++
      [newRequirement .metric earlier m.name])

/-- What is asked of each entry of a list, given the names of those before it. -/
def eachRequirement {α : Type} (name : α → String)
    (asks : List String → α → List (Requirement CatalogError)) :
    List String → List α → List (Requirement CatalogError)
  | _, [] => []
  | earlier, a :: rest => asks earlier a ++ eachRequirement name asks (name a :: earlier) rest

/-- What is asked of a model, in the order in which it is looked at. -/
def Model.requirements (m : Model) : List (Requirement CatalogError) :=
  tableRequirement m.fact.table "fact table" ::
    identifierRequirement m.fact.dateColumn "fact date column" ::
    (eachRequirement Dimension.name Dimension.requirements [] m.dimensions ++
      eachRequirement Metric.name (Metric.requirements (m.dimensions.map Dimension.name)) []
        m.metrics)

/-! ### The checks enforce it -/

theorem enforces_checkIdentifier (value context : String) :
    Enforces [identifierRequirement value context] (checkIdentifier value context) :=
  Enforces.single Identifier.ok_iff

theorem enforces_checkTable (value context : String) :
    Enforces [tableRequirement value context] (checkTable value context) :=
  Enforces.single Identifier.tableOk_iff

/-- The last check of an entry. -/
theorem enforces_new (kind : EntryKind) (earlier : List String) (name : String) :
    Enforces [newRequirement kind earlier name]
      (if earlier.contains name then throw (.duplicateName kind name) else pure ()) :=
  Enforces.guard (by rw [List.contains_iff_mem, Classical.not_not]) fun _ => Enforces.nil

theorem Dimension.enforces_check (earlier : List String) (d : Dimension) :
    Enforces (d.requirements earlier) (d.check earlier) := by
  have hnew := enforces_new .dimension earlier d.name
  refine (enforces_checkIdentifier d.name _).bind fun _ =>
    (enforces_checkIdentifier d.sourceColumn _).bind fun _ => ?_
  cases d.join with
  | none => exact hnew
  | some j =>
    exact (enforces_checkTable j.table _).bind fun _ =>
      (enforces_checkIdentifier j.foreignKey _).bind fun _ =>
        (enforces_checkIdentifier j.primaryKey _).bind fun _ => hnew

/-- **The check of a denominator** asks for one of ratios alone. -/
theorem Metric.enforces_checkDenominator (m : Metric) :
    Enforces m.denominatorRequirements m.checkDenominator := by
  unfold denominatorRequirements checkDenominator
  split
  · rename_i column hratio hcolumn
    rw [hratio, hcolumn]
    exact .cons_of_met (fun _ => rfl) (.cons_of_met (fun _ => rfl) (enforces_checkIdentifier _ _))
  · rename_i hratio hnone
    rw [hratio, hnone]
    exact .cons_of_not_met fun h => nomatch h rfl
  · rename_i column hcolumn hother
    rw [hcolumn]
    exact .cons_of_met (fun _ => rfl) (.cons_of_not_met fun h => hother (h rfl))
  · rename_i hnone hother
    rw [hnone]
    exact .cons_of_met (fun h => (hother h).elim) (.cons_of_met nofun .nil)

theorem Metric.enforces_check (dimensions earlier : List String) (m : Metric) :
    Enforces (m.requirements dimensions earlier) (m.check dimensions earlier) := by
  have hnew := enforces_new .metric earlier m.name
  rw [requirements, List.append_assoc]
  refine (enforces_checkIdentifier m.name _).bind fun _ =>
    (enforces_checkIdentifier m.sourceColumn _).bind fun _ => m.enforces_checkDenominator.bind
      fun _ => ?_
  refine .find (fun d => !dimensions.contains d) (fun d => ?_) (fun d hd => ?_) fun hnone => ?_
  · simp
  · rw [hd]
    rfl
  · rw [hnone]
    exact hnew

/-- **A check of a list of entries** asks for what it asks of each. -/
theorem enforces_checkEach {α : Type} {name : α → String}
    {check : List String → α → Except CatalogError Unit}
    {asks : List String → α → List (Requirement CatalogError)}
    (h : ∀ earlier a, Enforces (asks earlier a) (check earlier a)) (earlier : List String)
    (xs : List α) :
    Enforces (eachRequirement name asks earlier xs) (checkEach name check earlier xs) := by
  induction xs generalizing earlier with
  | nil => exact Enforces.nil
  | cons a rest ih => exact (h earlier a).bind fun _ => ih (name a :: earlier)

/-- **The checks of a model enforce what is asked of it,** in the same order. -/
theorem Model.enforces_check (m : Model) : Enforces m.requirements m.check :=
  (enforces_checkTable m.fact.table _).bind fun _ =>
    (enforces_checkIdentifier m.fact.dateColumn _).bind fun _ =>
      (enforces_checkEach Dimension.enforces_check [] m.dimensions).bind fun _ =>
        enforces_checkEach (Metric.enforces_check _) [] m.metrics

/-! ### What is asked is well-formedness -/

theorem Dimension.met_iff (earlier : List String) (d : Dimension) :
    (∀ r ∈ d.requirements earlier, r.met) ↔ d.WellFormed ∧ d.name ∉ earlier := by
  have hjoin : (∀ r ∈ d.join.toList.flatMap (Join.requirements d.name), r.met) ↔
      ∀ j, d.join = some j → j.WellFormed := by
    simp only [List.forall_mem_flatMap, Option.mem_toList, Join.requirements, List.forall_mem_cons,
      List.not_mem_nil, false_implies, implies_true, and_true]
    exact forall₂_congr fun j _ =>
      ⟨fun ⟨htable, hforeign, hprimary⟩ => ⟨htable, hforeign, hprimary⟩,
        fun h => ⟨h.table, h.foreignKey, h.primaryKey⟩⟩
  rw [requirements, List.forall_mem_cons, List.forall_mem_cons, List.forall_mem_append, hjoin,
    List.forall_mem_singleton]
  exact ⟨fun ⟨hname, hcolumn, hjoin, hnew⟩ => ⟨⟨hname, hcolumn, hjoin⟩, hnew⟩,
    fun ⟨h, hnew⟩ => ⟨h.name, h.sourceColumn, h.join, hnew⟩⟩

theorem Metric.met_iff (dimensions earlier : List String) (m : Metric) :
    (∀ r ∈ m.requirements dimensions earlier, r.met) ↔
      m.WellFormed dimensions ∧ m.name ∉ earlier := by
  rw [requirements, List.forall_mem_cons, List.forall_mem_cons, List.forall_mem_append,
    List.forall_mem_append, denominatorRequirements, List.forall_mem_cons, List.forall_mem_cons,
    List.forall_mem_map, List.forall_mem_map, List.forall_mem_singleton]
  simp only [Option.mem_toList]
  constructor
  · rintro ⟨hname, hcolumn, ⟨⟨hratio, honly, hdenominator⟩, hallowed⟩, hnew⟩
    exact ⟨⟨hname, hcolumn, hdenominator, ⟨honly, hratio⟩, hallowed⟩, hnew⟩
  · rintro ⟨h, hnew⟩
    exact ⟨h.name, h.sourceColumn, ⟨⟨h.ratio.2, h.ratio.1, h.denominatorColumn⟩, h.allowed⟩, hnew⟩

/-- Entries that are asked to be new each time have no name twice. -/
theorem eachRequirement_met_iff {α : Type} {name : α → String}
    {asks : List String → α → List (Requirement CatalogError)} {p : α → Prop}
    (h : ∀ earlier a, (∀ r ∈ asks earlier a, r.met) ↔ p a ∧ name a ∉ earlier)
    (earlier : List String) (xs : List α) :
    (∀ r ∈ eachRequirement name asks earlier xs, r.met) ↔
      (∀ a ∈ xs, p a) ∧ (xs.map name).Nodup ∧ ∀ a ∈ xs, name a ∉ earlier := by
  induction xs generalizing earlier with
  | nil => simp [eachRequirement]
  | cons a rest ih =>
    rw [eachRequirement, List.forall_mem_append, h, ih, List.forall_mem_cons, List.forall_mem_cons,
      List.map_cons, List.nodup_cons]
    constructor
    · rintro ⟨⟨ha, hnew⟩, hrest, hnodup, hlater⟩
      refine ⟨⟨ha, hrest⟩, ⟨fun hmem => ?_, hnodup⟩, hnew, fun b hb hmem =>
        hlater b hb (List.mem_cons_of_mem _ hmem)⟩
      obtain ⟨b, hb, heq⟩ := List.mem_map.1 hmem
      exact hlater b hb (heq ▸ List.mem_cons_self)
    · rintro ⟨⟨ha, hrest⟩, ⟨hnotin, hnodup⟩, hnew, hlater⟩
      refine ⟨⟨ha, hnew⟩, hrest, hnodup, fun b hb hmem => ?_⟩
      rcases List.mem_cons.1 hmem with heq | hmem
      · exact hnotin (heq ▸ List.mem_map_of_mem hb)
      · exact hlater b hb hmem

/-- **A model is well-formed when everything that is asked of it is met.** -/
theorem Model.wellFormed_iff {m : Model} : m.WellFormed ↔ ∀ r ∈ m.requirements, r.met := by
  rw [requirements, List.forall_mem_cons, List.forall_mem_cons, List.forall_mem_append,
    eachRequirement_met_iff Dimension.met_iff, eachRequirement_met_iff (Metric.met_iff _)]
  constructor
  · exact fun h => ⟨h.factTable, h.dateColumn, ⟨h.dimensions, h.dimensionNames, nofun⟩,
      h.metrics, h.metricNames, nofun⟩
  · rintro ⟨htable, hdate, ⟨hdimensions, hdimensionNames, -⟩, hmetrics, hmetricNames, -⟩
    exact ⟨htable, hdate, hdimensions, hdimensionNames, hmetrics, hmetricNames⟩

/-- **The checks of a model accept exactly the well-formed ones.** -/
theorem Model.check_eq_ok {m : Model} : m.check = .ok () ↔ m.WellFormed := by
  rw [m.enforces_check.eq_ok_iff, Model.wellFormed_iff]

theorem Catalog.wellFormed (c : Catalog) : c.model.WellFormed := Model.check_eq_ok.1 c.checked

end SemanticLayer
