import SemanticLayer.Calendar.Grain
import SemanticLayer.Query.Filters

/-
# Metric queries

The request that forms and questions both come down to: a metric, the
dimensions that split it, filters, a grain, and a range of days.
-/

namespace SemanticLayer

structure MetricQuery where
  metric : String
  dimensions : List String
  filters : Filters
  grain : Grain
  start : Date
  stop : Date
deriving DecidableEq

namespace MetricQuery

/-- A query by day over a range, without dimensions and filters. -/
def forMetric (metric : String) (start stop : Date) : MetricQuery :=
  { metric, dimensions := [], filters := .empty, grain := .day, start, stop }

/-- Adds a dimension behind the others. -/
def splitBy (q : MetricQuery) (dimension : String) : MetricQuery :=
  { q with dimensions := q.dimensions ++ [dimension] }

/-- Adds dimensions behind the others. -/
def splitByAll (q : MetricQuery) (dimensions : List String) : MetricQuery :=
  { q with dimensions := q.dimensions ++ dimensions }

/-- Adds values to the filter on a dimension. -/
def filter (q : MetricQuery) (dimension : String) (values : List String) : MetricQuery :=
  { q with filters := q.filters.add dimension values }

/-- Groups by a grain. -/
def byGrain (q : MetricQuery) (grain : Grain) : MetricQuery := { q with grain }

end MetricQuery

end SemanticLayer
