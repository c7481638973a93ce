import SemanticLayer.Catalog.Catalog
import SemanticLayer.Json.Decoder
import SemanticLayer.Json.Writer

/-
# Model documents

A model is stored as JSON.  The fields of each record, in their order, and what
stands for a field that is left out:

| record | fields |
| --- | --- |
| model | `name`, `label` (empty), `description` (empty), `fact`, `metrics`, `dimensions` |
| fact table | `table`, `date_column` |
| metric | `name`, `label`, `unit` (empty), `description` (empty), `aggregation` (sum), `source_column`, `denominator_column` (none), `allowed_dimensions` (none), `synonyms` (none) |
| dimension | `name`, `label`, `description` (empty), `source_column`, `join` (none), `synonyms` (none), `values` (any) |
| join | `table`, `foreign_key`, `primary_key` |
-/

namespace SemanticLayer

open Json Json.Decoder

/-- The names of the aggregations; `average` stands for `avg`. -/
def Aggregation.names : List (List String × Aggregation) :=
  [(["sum"], .sum), (["average", "avg"], .avg), (["count"], .count), (["ratio"], .ratio)]

def Aggregation.decoder : Decoder Aggregation := choice Aggregation.names

def FactTable.decoder : Decoder FactTable :=
  record "struct FactSource" [
    .needed "table" text fun v t => { t with table := v },
    .needed "date_column" text fun v t => { t with dateColumn := v }] ⟨"", ""⟩

def Join.decoder : Decoder Join :=
  record "struct DimensionJoin" [
    .needed "table" text fun v j => { j with table := v },
    .needed "foreign_key" text fun v j => { j with foreignKey := v },
    .needed "primary_key" text fun v j => { j with primaryKey := v }] ⟨"", "", ""⟩

/-- A metric with nothing but the values of absent fields. -/
def Metric.blank : Metric := ⟨"", "", "", "", .sum, "", none, [], []⟩

def Metric.decoder : Decoder Metric :=
  record "struct MetricDefinition" [
    .needed "name" text fun v m => { m with name := v },
    .needed "label" text fun v m => { m with label := v },
    .spare ["unit"] text fun v m => { m with unit := v },
    .spare ["description"] text fun v m => { m with description := v },
    .spare ["aggregation"] Aggregation.decoder fun v m => { m with aggregation := v },
    .needed "source_column" text fun v m => { m with sourceColumn := v },
    .spare ["denominator_column"] (optional text) fun v m => { m with denominatorColumn := v },
    .spare ["allowed_dimensions"] (Decoder.list text) fun v m => { m with allowedDimensions := v },
    .spare ["synonyms"] (Decoder.list text) fun v m => { m with synonyms := v }] Metric.blank

/-- A dimension with nothing but the values of absent fields. -/
def Dimension.blank : Dimension := ⟨"", "", "", "", none, [], []⟩

def Dimension.decoder : Decoder Dimension :=
  record "struct DimensionDefinition" [
    .needed "name" text fun v d => { d with name := v },
    .needed "label" text fun v d => { d with label := v },
    .spare ["description"] text fun v d => { d with description := v },
    .needed "source_column" text fun v d => { d with sourceColumn := v },
    .spare ["join"] (optional Join.decoder) fun v d => { d with join := v },
    .spare ["synonyms"] (Decoder.list text) fun v d => { d with synonyms := v },
    .spare ["values"] (Decoder.list text) fun v d => { d with values := v }] Dimension.blank

/-- A model with nothing but the values of absent fields. -/
def Model.blank : Model := ⟨"", "", "", ⟨"", ""⟩, [], []⟩

def Model.decoder : Decoder Model :=
  record "struct SemanticModel" [
    .needed "name" text fun v m => { m with name := v },
    .spare ["label"] text fun v m => { m with label := v },
    .spare ["description"] text fun v m => { m with description := v },
    .needed "fact" FactTable.decoder fun v m => { m with fact := v },
    .needed "metrics" (Decoder.list Metric.decoder) fun v m => { m with metrics := v },
    .needed "dimensions" (Decoder.list Dimension.decoder) fun v m => { m with dimensions := v }]
    Model.blank

def FactTable.toJson (t : FactTable) : Json :=
  .object [("table", .string t.table), ("date_column", .string t.dateColumn)]

def Join.toJson (j : Join) : Json :=
  .object [("table", .string j.table), ("foreign_key", .string j.foreignKey),
    ("primary_key", .string j.primaryKey)]

def Metric.toJson (m : Metric) : Json :=
  .object [("name", .string m.name), ("label", .string m.label), ("unit", .string m.unit),
    ("description", .string m.description), ("aggregation", .string m.aggregation.name),
    ("source_column", .string m.sourceColumn),
    ("denominator_column", .optional m.denominatorColumn),
    ("allowed_dimensions", .strings m.allowedDimensions), ("synonyms", .strings m.synonyms)]

def Dimension.toJson (d : Dimension) : Json :=
  .object [("name", .string d.name), ("label", .string d.label),
    ("description", .string d.description), ("source_column", .string d.sourceColumn),
    ("join", d.join.elim .null Join.toJson), ("synonyms", .strings d.synonyms),
    ("values", .strings d.values)]

def Model.toJson (m : Model) : Json :=
  .object [("name", .string m.name), ("label", .string m.label),
    ("description", .string m.description), ("fact", m.fact.toJson),
    ("metrics", .list (m.metrics.map Metric.toJson)),
    ("dimensions", .list (m.dimensions.map Dimension.toJson))]

def MetricSummary.toJson (s : MetricSummary) : Json :=
  .object [("name", .string s.name), ("label", .string s.label), ("unit", .string s.unit),
    ("description", .string s.description)]

/-- The text under which a model is stored. -/
def Model.write (m : Model) : String := m.toJson.write

/-- The model stored under a text. -/
def Model.read (s : String) : Except Problem Model := Model.decoder.read s

end SemanticLayer
