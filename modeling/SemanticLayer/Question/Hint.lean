import SemanticLayer.Catalog.Catalog

/-
# Hints: what the reader of a question is told about the catalog
-/

namespace SemanticLayer

/-- A catalog entry as it is described to readers. -/
structure HintEntry where
  name : String
  label : String
  description : String
  synonyms : List String
  /-- The closed set of values of a dimension; empty for metrics and open dimensions. -/
  values : List String
deriving DecidableEq

structure Hint where
  metrics : List HintEntry
  dimensions : List HintEntry
deriving DecidableEq

def Metric.hint (m : Metric) : HintEntry := ⟨m.name, m.label, m.description, m.synonyms, []⟩
def Dimension.hint (d : Dimension) : HintEntry :=
  ⟨d.name, d.label, d.description, d.synonyms, d.values⟩

/-- The hint of a catalog: its entries in their order. -/
def Catalog.hint (c : Catalog) : Hint := ⟨c.metrics.map Metric.hint, c.dimensions.map Dimension.hint⟩

/-- A line for an entry; what is empty is left out. -/
def HintEntry.render (e : HintEntry) : String :=
  "- " ++ e.name ++ ": " ++ e.label ++
    (if e.description.isEmpty then "" else " (" ++ e.description ++ ")") ++
    (if e.synonyms.isEmpty then "" else "; synonyms: " ++ ", ".intercalate e.synonyms) ++
    (if e.values.isEmpty then "" else "; values: " ++ ", ".intercalate e.values) ++ "\n"

/-- The entries one to a line, under the headings of the two kinds. -/
def Hint.render (h : Hint) : String :=
  "Metrics:\n" ++ String.join (h.metrics.map HintEntry.render) ++
    "Dimensions:\n" ++ String.join (h.dimensions.map HintEntry.render)

end SemanticLayer
