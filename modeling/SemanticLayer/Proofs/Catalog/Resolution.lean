import Mathlib.Data.List.DropRight
import SemanticLayer.Proofs.Catalog.Identifiers
import SemanticLayer.Proofs.Text.Utf8

/-
# What a name stands for

No two entries of a catalog have one name, but two names may differ in letter
case alone, and a term is compared with the names in lower case.  So a name
stands for the first entry that is named like it, letter case aside
(`Entry.resolve_name`), which is the entry itself when no such name is before it
(`Leads`):

| the term | stands for |
| --- | --- |
| a name, letter case aside | the first name like it |
| the label or a synonym of one entry | the name of that entry |
| anything else | itself, without outer blanks |

What a term stands for stands for itself again, unless the second line led to a
name that does not lead (`Entry.resolve_again`).
-/

namespace SemanticLayer

namespace Text

/-- What is left of a text has no blanks to cut off. -/
theorem trim_trim (s : String) : trim (trim s) = trim s := by
  have hkeep : skipBlank (List.rdropWhile isBlank (skipBlank s.toList)) =
      List.rdropWhile isBlank (skipBlank s.toList) := by
    obtain ⟨cut, hcut⟩ := List.rdropWhile_prefix isBlank (skipBlank s.toList)
    have hfirst : ∀ c, (skipBlank s.toList).head? = some c → isBlank c = false := by
      intro c hc
      have hnot := List.head?_dropWhile_not isBlank s.toList
      rw [← skipBlank, hc] at hnot
      exact hnot
    cases hleft : List.rdropWhile isBlank (skipBlank s.toList) with
    | nil => rfl
    | cons c cs =>
      -- the first character that is left is the first behind the blanks
      rw [← hcut, hleft] at hfirst
      exact List.dropWhile_cons_of_neg (by simp [hfirst c rfl])
  have hagain := List.rdropWhile_idempotent isBlank (skipBlank s.toList)
  unfold trim
  rw [String.toList_ofList]
  change String.ofList (List.rdropWhile isBlank
    (skipBlank (List.rdropWhile isBlank (skipBlank s.toList)))) =
      String.ofList (List.rdropWhile isBlank (skipBlank s.toList))
  rw [hkeep, hagain]

end Text

/-- A name is the first of some names that is spelled like it, letter case aside. -/
def Leads (names : List String) (name : String) : Prop :=
  ∃ before after, names = before ++ name :: after ∧
    ∀ other ∈ before, Text.lower other ≠ Text.lower name

/-- The first name in a spelling. -/
theorem find?_lower_eq_some {names : List String} {needle first : String} :
    names.find? (Text.lower · == needle) = some first ↔
      Text.lower first = needle ∧ Leads names first := by
  rw [List.find?_eq_some_iff_append]
  simp only [beq_iff_eq, Bool.not_eq_true', beq_eq_false_iff_ne, ne_eq, Leads]
  constructor
  · rintro ⟨rfl, before, after, hnames, hbefore⟩
    exact ⟨rfl, before, after, hnames, hbefore⟩
  · rintro ⟨rfl, before, after, hnames, hbefore⟩
    exact ⟨rfl, before, after, hnames, hbefore⟩

/-- Whether a name leads is seen at the first name in its spelling. -/
theorem find?_lower_eq_some_self {names : List String} {name : String} :
    names.find? (Text.lower · == Text.lower name) = some name ↔ Leads names name :=
  find?_lower_eq_some.trans (and_iff_right rfl)

instance (names : List String) (name : String) : Decidable (Leads names name) :=
  decidable_of_iff _ find?_lower_eq_some_self

/-- Where no two names differ in letter case alone, every name leads. -/
theorem leads_of_nodup_lower {names : List String} (h : (names.map Text.lower).Nodup)
    {name : String} (hname : name ∈ names) : Leads names name := by
  obtain ⟨before, after, rfl⟩ := List.append_of_mem hname
  rw [List.map_append, List.map_cons] at h
  have hdisjoint := (List.nodup_append.1 h).2.2
  exact ⟨before, after, rfl, fun other hother =>
    hdisjoint _ (List.mem_map_of_mem hother) _ List.mem_cons_self⟩

/-- Terms stand for names: a name for the first that is spelled like it, letter case aside, and
what a term stands for for itself, if it is a name that leads or no name. -/
structure StandsForFirst (names : List String) (resolve : String → Except CatalogError String) :
    Prop where
  first : ∀ name ∈ names, ∃ first, resolve name = .ok first ∧ Leads names first ∧
    Text.lower first = Text.lower name
  itself : ∀ name ∈ names, (resolve name = .ok name ↔ Leads names name)
  again : ∀ term name, resolve term = .ok name →
    (resolve name = .ok name ↔ (name ∈ names → Leads names name))

namespace Entry

/-- The first entry that is named like a term, letter case aside. -/
theorem find?_entry (entries : List Entry) (needle : String) :
    (entries.find? fun e => Text.lower e.name == needle).map Entry.name =
      (entries.map Entry.name).find? (Text.lower · == needle) := by
  rw [List.find?_map]
  rfl

/-- **A term that is spelled like a name** stands for the first such name. -/
theorem resolve_of_leads {entries : List Entry} {term first : String}
    (hleads : Leads (entries.map Entry.name) first) (hspelled : Text.lower first = fold term) :
    resolve entries term = .ok first := by
  have hfind := (find?_entry entries (fold term)).trans (find?_lower_eq_some.2 ⟨hspelled, hleads⟩)
  obtain ⟨e, he, rfl⟩ := Option.map_eq_some_iff.1 hfind
  simp only [resolve, he]

/-- **A term that is spelled like no name,** and no name comes of it, stands for itself. -/
theorem eq_trim_of_resolve {entries : List Entry} {term name : String}
    (h : resolve entries term = .ok name) (hname : name ∉ entries.map Entry.name) :
    name = Text.trim term ∧ resolve entries name = .ok name := by
  unfold resolve at h
  dsimp only at h
  split at h
  · rename_i e he
    cases h
    exact absurd (List.mem_map_of_mem (List.mem_of_find?_eq_some he)) hname
  · rename_i hfind
    split at h
    · rename_i hnone
      cases h
      have hfold : fold (Text.trim term) = fold term := congrArg Text.lower (Text.trim_trim term)
      refine ⟨rfl, ?_⟩
      simp only [resolve, hfold, hfind, hnone, Text.trim_trim]
    · rename_i other hother
      cases h
      have hmem : name ∈ (entries.filter (goesBy (fold term))).map Entry.name :=
        hother ▸ List.mem_singleton_self name
      obtain ⟨e, he, rfl⟩ := List.mem_map.1 hmem
      exact absurd (List.mem_map_of_mem (List.mem_of_mem_filter he)) hname
    · cases h

/-- A name has no blanks to cut off. -/
theorem fold_of_ok {name : String} (h : Identifier.ok name.toList = true) :
    fold name = Text.lower name := by
  rw [fold, Text.trim_eq_self fun c hc =>
    Identifier.isBlank_of_isPart (Identifier.isPart_of_ok h c hc)]

section Identifiers

variable {entries : List Entry}
  (hok : ∀ name ∈ entries.map Entry.name, Identifier.ok name.toList = true)
include hok

/-- **A name stands for the first name that is spelled like it.** -/
theorem resolve_name {name : String} (hname : name ∈ entries.map Entry.name) :
    ∃ first, resolve entries name = .ok first ∧ Leads (entries.map Entry.name) first ∧
      Text.lower first = Text.lower name := by
  have hsome : ((entries.map Entry.name).find? (Text.lower · == Text.lower name)).isSome := by
    rw [List.find?_isSome]
    exact ⟨name, hname, beq_self_eq_true _⟩
  obtain ⟨first, hfirst⟩ := Option.isSome_iff_exists.1 hsome
  obtain ⟨hspelled, hleads⟩ := find?_lower_eq_some.1 hfirst
  exact ⟨first, resolve_of_leads hleads (hspelled.trans (fold_of_ok (hok name hname)).symm), hleads,
    hspelled⟩

/-- **It stands for itself when it leads.** -/
theorem resolve_self {name : String} (hname : name ∈ entries.map Entry.name) :
    resolve entries name = .ok name ↔ Leads (entries.map Entry.name) name := by
  constructor
  · intro h
    obtain ⟨first, hfirst, hleads, -⟩ := resolve_name hok hname
    cases hfirst.symm.trans h
    exact hleads
  · exact fun hleads => resolve_of_leads hleads (fold_of_ok (hok name hname)).symm

/-- **What a term stands for stands for itself,** unless it is a name that does not lead. -/
theorem resolve_again {term name : String} (h : resolve entries term = .ok name) :
    resolve entries name = .ok name ↔
      (name ∈ entries.map Entry.name → Leads (entries.map Entry.name) name) := by
  by_cases hname : name ∈ entries.map Entry.name
  · exact (resolve_self hok hname).trans ⟨fun hleads _ => hleads, fun hleads => hleads hname⟩
  · exact ⟨fun _ hmem => absurd hmem hname, fun _ => (eq_trim_of_resolve h hname).2⟩

theorem standsForFirst : StandsForFirst (entries.map Entry.name) (resolve entries) :=
  ⟨fun _ => resolve_name hok, fun _ => resolve_self hok, fun _ _ => resolve_again hok⟩

end Identifiers

end Entry

namespace Catalog

variable (c : Catalog)

/-- The names of the metrics, in their order. -/
def metricNames : List String := c.metrics.map Metric.name

/-- The names of the dimensions, in their order. -/
def dimensionNames : List String := c.dimensions.map Dimension.name

/-- **Terms stand for metrics,** names for the first metric spelled like them. -/
theorem resolveMetric_standsForFirst : StandsForFirst c.metricNames c.resolveMetric := by
  have hnames : (c.metrics.map Metric.entry).map Entry.name = c.metricNames := List.map_map
  have hok : ∀ name ∈ (c.metrics.map Metric.entry).map Entry.name,
      Identifier.ok name.toList = true := by
    intro name hname
    rw [hnames] at hname
    obtain ⟨m, hm, rfl⟩ := List.mem_map.1 hname
    exact (c.metric_spelled hm).name
  exact hnames ▸ Entry.standsForFirst hok

/-- **And for dimensions,** in the same way. -/
theorem resolveDimension_standsForFirst :
    StandsForFirst c.dimensionNames c.resolveDimension := by
  have hnames : (c.dimensions.map Dimension.entry).map Entry.name = c.dimensionNames :=
    List.map_map
  have hok : ∀ name ∈ (c.dimensions.map Dimension.entry).map Entry.name,
      Identifier.ok name.toList = true := by
    intro name hname
    rw [hnames] at hname
    obtain ⟨d, hd, rfl⟩ := List.mem_map.1 hname
    exact (c.dimension_spelled hd).name
  exact hnames ▸ Entry.standsForFirst hok

end Catalog

end SemanticLayer
