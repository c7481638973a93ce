import SemanticLayer.Proofs.Catalog.WellFormed
import SemanticLayer.Proofs.Sql.Spelling

/-
# What the checks of a model promise

Every name, column, key and table of a catalog is spelled with ASCII letters,
digits and underscores, a ratio has a denominator, and every dimension that a
metric allows is defined.  `Catalog.Mentions` is the vocabulary of a catalog.
-/

namespace SemanticLayer

namespace Identifier

/-- Where the characters of identifiers stand among all characters. -/
theorem toNat_of_isPart {c : Char} (h : isPart c = true) : 48 ≤ c.toNat ∧ c.toNat ≤ 122 := by
  simp only [isPart, Char.isAlphanum, Char.isAlpha, Char.isUpper, Char.isLower, Char.isDigit,
    Bool.or_eq_true, Bool.and_eq_true, decide_eq_true_eq, beq_iff_eq, ge_iff_le,
    UInt32.le_iff_toNat_le] at h
  rcases h with ((h | h) | h) | rfl
  · change 65 ≤ c.toNat ∧ c.toNat ≤ 90 at h
    omega
  · change 97 ≤ c.toNat ∧ c.toNat ≤ 122 at h
    omega
  · change 48 ≤ c.toNat ∧ c.toNat ≤ 57 at h
    omega
  · decide

/-- The characters of identifiers are word characters of statements. -/
theorem isWordPart_of_isPart {c : Char} (h : isPart c = true) : Sql.Lex.isWordPart c = true := by
  have hc := toNat_of_isPart h
  simp only [isPart, Char.isAlphanum, Bool.or_eq_true] at h
  simp only [Sql.Lex.isWordPart, Bool.or_eq_true]
  rcases h with (h | h) | h
  · refine .inl (.inl (.inl ?_))
    rw [Text.isAlphabetic, if_pos (by omega)]
    exact h
  · exact .inl (.inl (.inr h))
  · exact .inr h

/-- They are no blanks. -/
theorem isBlank_of_isPart {c : Char} (h : isPart c = true) : Text.isBlank c = false := by
  have hc := toNat_of_isPart h
  generalize hn : c.toNat = n at hc
  simp only [Text.isBlank, hn]
  simp
  omega

theorem isPart_of_isStart {c : Char} (h : isStart c = true) : isPart c = true := by
  simp only [isStart, isPart, Char.isAlphanum, Bool.or_eq_true] at h ⊢
  exact h.imp_left .inl

/-- **Identifiers have nothing in them but such characters.** -/
theorem isPart_of_ok {cs : List Char} (h : ok cs = true) : ∀ c ∈ cs, isPart c = true := by
  cases cs with
  | nil => nofun
  | cons d cs =>
    rw [ok, Bool.and_eq_true, List.all_eq_true] at h
    exact List.forall_mem_cons.2 ⟨isPart_of_isStart h.1, h.2⟩

theorem isWordPart_of_ok {cs : List Char} (h : ok cs = true) :
    ∀ c ∈ cs, Sql.Lex.isWordPart c = true :=
  fun c hc => isWordPart_of_isPart (isPart_of_ok h c hc)

/-- A text has at least one part. -/
theorem parts_ne_nil (cs : List Char) : parts cs ≠ [] :=
  parts_eq_splitOn cs ▸ List.splitOn_ne_nil '.' cs

end Identifier

/-! ### Spelled entries -/

/-- Where no name is there twice, an element is the first of its name. -/
theorem find?_name {α : Type} {name : α → String} {xs : List α} (h : (xs.map name).Nodup) {x : α}
    (hx : x ∈ xs) : xs.find? (fun y => name y == name x) = some x := by
  induction xs with
  | nil => cases hx
  | cons y ys ih =>
    rw [List.map_cons, List.nodup_cons] at h
    rcases List.mem_cons.1 hx with rfl | hx
    · rw [List.find?_cons_of_pos (by simp)]
    · have hne : name y ≠ name x := fun heq => h.1 (heq ▸ List.mem_map_of_mem hx)
      rw [List.find?_cons_of_neg (by simpa using hne)]
      exact ih h.2 hx

/-- A dimension whose names are identifiers. -/
structure Dimension.Spelled (d : Dimension) : Prop where
  name : Identifier.ok d.name.toList = true
  sourceColumn : Identifier.ok d.sourceColumn.toList = true
  join : ∀ j, d.join = some j → Identifier.tableOk j.table = true ∧
    Identifier.ok j.foreignKey.toList = true ∧ Identifier.ok j.primaryKey.toList = true

/-- A metric whose names are identifiers and which has a denominator if it needs one. -/
structure Metric.Spelled (m : Metric) : Prop where
  name : Identifier.ok m.name.toList = true
  sourceColumn : Identifier.ok m.sourceColumn.toList = true
  denominator : m.aggregation = .ratio → ∃ column, m.denominatorColumn = some column ∧
    Identifier.ok column.toList = true

theorem Dimension.WellFormed.spelled {d : Dimension} (h : d.WellFormed) : d.Spelled where
  name := Identifier.ok_iff.2 h.name
  sourceColumn := Identifier.ok_iff.2 h.sourceColumn
  join j hj := ⟨Identifier.tableOk_iff.2 (h.join j hj).table,
    Identifier.ok_iff.2 (h.join j hj).foreignKey, Identifier.ok_iff.2 (h.join j hj).primaryKey⟩

theorem Metric.WellFormed.spelled {dimensions : List String} {m : Metric}
    (h : m.WellFormed dimensions) : m.Spelled where
  name := Identifier.ok_iff.2 h.name
  sourceColumn := Identifier.ok_iff.2 h.sourceColumn
  denominator hratio := by
    obtain ⟨column, hcolumn⟩ := Option.isSome_iff_exists.1 (h.ratio.2 hratio)
    exact ⟨column, hcolumn, Identifier.ok_iff.2 (h.denominatorColumn column hcolumn)⟩

namespace Catalog

variable (c : Catalog)

/-- **The fact table and its day column are spelled as identifiers.** -/
theorem fact_spelled : Identifier.tableOk c.fact.table = true ∧
    Identifier.ok c.fact.dateColumn.toList = true :=
  ⟨Identifier.tableOk_iff.2 c.wellFormed.factTable, Identifier.ok_iff.2 c.wellFormed.dateColumn⟩

/-- **So are the names of its dimensions.** -/
theorem dimension_spelled {d : Dimension} (h : d ∈ c.dimensions) : d.Spelled :=
  (c.wellFormed.dimensions d h).spelled

/-- **And those of its metrics,** and a ratio has a denominator. -/
theorem metric_spelled {m : Metric} (h : m ∈ c.metrics) : m.Spelled :=
  (c.wellFormed.metrics m h).spelled

/-- **No two dimensions of a catalog have one name.** -/
theorem nodup_dimensionNames : (c.dimensions.map Dimension.name).Nodup :=
  c.wellFormed.dimensionNames

/-- **Nor have two metrics.** -/
theorem nodup_metricNames : (c.metrics.map Metric.name).Nodup := c.wellFormed.metricNames

variable {c}

/-- What is looked up is defined, under its name. -/
theorem mem_of_dimension {name : String} {d : Dimension} (h : c.dimension name = .ok d) :
    d ∈ c.dimensions ∧ d.name = name := by
  unfold dimension at h
  split at h
  · rename_i hfind
    cases h
    exact ⟨List.mem_of_find?_eq_some hfind, by simpa using List.find?_some hfind⟩
  · cases h

theorem mem_of_metric {name : String} {m : Metric} (h : c.metric name = .ok m) :
    m ∈ c.metrics ∧ m.name = name := by
  unfold metric at h
  split at h
  · rename_i hfind
    cases h
    exact ⟨List.mem_of_find?_eq_some hfind, by simpa using List.find?_some hfind⟩
  · cases h

/-- **A metric is found under its name,** because no other has it. -/
theorem metric_eq_ok_iff {name : String} {m : Metric} :
    c.metric name = .ok m ↔ m ∈ c.metrics ∧ m.name = name := by
  refine ⟨mem_of_metric, ?_⟩
  rintro ⟨hm, rfl⟩
  have hfind := find?_name c.nodup_metricNames hm
  rw [metric, hfind]

/-- **So is a dimension.** -/
theorem dimension_eq_ok_iff {name : String} {d : Dimension} :
    c.dimension name = .ok d ↔ d ∈ c.dimensions ∧ d.name = name := by
  refine ⟨mem_of_dimension, ?_⟩
  rintro ⟨hd, rfl⟩
  have hfind := find?_name c.nodup_dimensionNames hd
  rw [dimension, hfind]

/-- **Every dimension that a metric allows is defined.** -/
theorem exists_dimension {m : Metric} (hm : m ∈ c.metrics) {name : String}
    (h : m.allows name = true) : ∃ d, c.dimension name = .ok d := by
  have hmem := (c.wellFormed.metrics m hm).allowed name (List.contains_iff_mem.1 h)
  unfold dimension
  cases hfind : c.dimensions.find? fun d => d.name == name with
  | some d => exact ⟨d, rfl⟩
  | none =>
    obtain ⟨d, hd, rfl⟩ := List.mem_map.1 hmem
    rw [List.find?_eq_none] at hfind
    exact absurd (beq_self_eq_true d.name) (hfind d hd)

end Catalog

/-! ### The vocabulary of a catalog -/

/-- A part of a table name. -/
def TablePart (table w : String) : Prop :=
  ∃ part ∈ Identifier.parts table.toList, w = String.ofList part

/-- The words that a catalog mentions. -/
inductive Catalog.Mentions (c : Catalog) : String → Prop where
  | factTable {w : String} (h : TablePart c.fact.table w) : Mentions c w
  | dateColumn : Mentions c c.fact.dateColumn
  | metricName {m : Metric} (h : m ∈ c.metrics) : Mentions c m.name
  | metricColumn {m : Metric} (h : m ∈ c.metrics) : Mentions c m.sourceColumn
  | denominator {m : Metric} (h : m ∈ c.metrics) {column : String}
    (hd : m.denominatorColumn = some column) : Mentions c column
  | dimensionName {d : Dimension} (h : d ∈ c.dimensions) : Mentions c d.name
  | dimensionColumn {d : Dimension} (h : d ∈ c.dimensions) : Mentions c d.sourceColumn
  | joinTable {d : Dimension} (h : d ∈ c.dimensions) {j : Join} (hj : d.join = some j) {w : String}
    (hw : TablePart j.table w) : Mentions c w
  | foreignKey {d : Dimension} (h : d ∈ c.dimensions) {j : Join} (hj : d.join = some j) :
    Mentions c j.foreignKey
  | primaryKey {d : Dimension} (h : d ∈ c.dimensions) {j : Join} (hj : d.join = some j) :
    Mentions c j.primaryKey

end SemanticLayer
