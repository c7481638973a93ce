import SemanticLayer.Calendar.DateText
import SemanticLayer.Json.Decoder
import SemanticLayer.Json.Writer
import SemanticLayer.Query.MetricQuery

/-
# Query documents

The fields of a query, in their order, and what stands for a field that is left
out: `metric_name`, `dimensions` (none), `filters` (none), `granularity` (day),
`start_date`, `end_date`.  A filter is a value or a list of values; of two
filters under one key the later counts.
-/

namespace SemanticLayer

open Json Json.Decoder

/-- The names of the grains. -/
def Grain.names : List (List String × Grain) :=
  [(["daily", "day"], .day), (["week", "weekly"], .week), (["month", "monthly"], .month),
    (["quarter", "quarterly"], .quarter), (["year", "yearly"], .year)]

def Grain.decoder : Decoder Grain := choice Grain.names

/-- A date as documents write it. -/
def Date.decoder : Decoder Date :=
  spelled "a formatted date string" fun s =>
    match Date.ofDocument s with
    | .ok d => .ok d
    | .error e => .error (.misspelled e.message)

def Filters.decoder : Decoder Filters :=
  table (oneOrMany "FilterValuesHelper") Filters.empty fun f key values => f.set key values

/-- A query with nothing but the values of absent fields. -/
def MetricQuery.blank : MetricQuery := .forMetric "" Date.first Date.first

def MetricQuery.decoder : Decoder MetricQuery :=
  record "struct StructuredQuery" [
    .needed "metric_name" text fun v q => { q with metric := v },
    .spare ["dimensions"] (Decoder.list text) fun v q => { q with dimensions := v },
    .spare ["filters"] Filters.decoder fun v q => { q with filters := v },
    .spare ["granularity"] Grain.decoder fun v q => { q with grain := v },
    .needed "start_date" Date.decoder fun v q => { q with start := v },
    .needed "end_date" Date.decoder fun v q => { q with stop := v }] MetricQuery.blank

def Filters.toJson (f : Filters) : Json :=
  .object (f.entries.map fun e => (e.1, .strings e.2))

/-- The entries of a query document. -/
def MetricQuery.entries (q : MetricQuery) : List (String × Json) :=
  [("metric_name", .string q.metric), ("dimensions", .strings q.dimensions),
    ("filters", q.filters.toJson), ("granularity", .string q.grain.name),
    ("start_date", .string q.start.iso), ("end_date", .string q.stop.iso)]

def MetricQuery.toJson (q : MetricQuery) : Json := .object q.entries

end SemanticLayer
