/-
# Semantic models

A model names one fact table, the metrics aggregated over it and the dimensions
its rows are described by.  A dimension's column lies in the fact table or in a
lookup table that the fact table points to.

| aggregation | value of a group |
| --- | --- |
| sum | sum of the inputs, zero when there are none |
| avg | mean of the inputs |
| count | number of the inputs |
| ratio | sum of the inputs over the sum of the denominators |
-/

namespace SemanticLayer

/-- How the inputs of a group become the value of a metric. -/
inductive Aggregation where
  | sum | avg | count | ratio
deriving DecidableEq, Repr, Inhabited

/-- The table every metric aggregates over. -/
structure FactTable where
  /-- Name of the table, parts separated by dots. -/
  table : String
  dateColumn : String
deriving DecidableEq, Inhabited

/-- A lookup table reached by `fact.foreignKey = table.primaryKey`. -/
structure Join where
  table : String
  foreignKey : String
  primaryKey : String
deriving DecidableEq

structure Metric where
  name : String
  label : String
  unit : String
  description : String
  aggregation : Aggregation
  sourceColumn : String
  /-- The column a ratio divides by. -/
  denominatorColumn : Option String
  allowedDimensions : List String
  synonyms : List String
deriving DecidableEq

structure Dimension where
  name : String
  label : String
  description : String
  sourceColumn : String
  join : Option Join
  synonyms : List String
  /-- The values a filter may name; any value when the list is empty. -/
  values : List String
deriving DecidableEq

structure Model where
  name : String
  label : String
  description : String
  fact : FactTable
  metrics : List Metric
  dimensions : List Dimension
deriving DecidableEq

namespace Aggregation

def all : List Aggregation := [.sum, .avg, .count, .ratio]

/-- The name of an aggregation in documents. -/
def name : Aggregation → String
  | sum => "sum"
  | avg => "avg"
  | count => "count"
  | ratio => "ratio"

/-- A call of a function in a statement. -/
def call (function argument : String) : String := function ++ "(" ++ argument ++ ")"

/-- The aggregate of a group, given the expressions for its inputs and denominators. -/
def render (input denominator : String) : Aggregation → String
  | sum => call "COALESCE" (call "SUM" input ++ ", 0")
  | avg => call "AVG" input
  | count => call "COUNT" input
  | ratio => call "CAST" (call "SUM" input ++ " AS DOUBLE PRECISION") ++ " / " ++
      call "NULLIF" (call "SUM" denominator ++ ", 0")

end Aggregation

namespace Metric

/-- Whether a metric may be split or filtered by a dimension. -/
def allows (m : Metric) (dimension : String) : Bool := m.allowedDimensions.contains dimension

end Metric

namespace Dimension

/-- Whether a filter on the dimension may name a value. -/
def accepts (d : Dimension) (value : String) : Bool := d.values.isEmpty || d.values.contains value

end Dimension

end SemanticLayer
