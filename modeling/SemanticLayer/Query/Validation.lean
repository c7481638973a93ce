import SemanticLayer.Calendar.Spine
import SemanticLayer.Catalog.Catalog
import SemanticLayer.Query.MetricQuery

/-
# Validation: the queries that may be compiled

`MetricQuery.validate` runs these checks and stops at the first that fails:

1. the metric is defined;
2. its metric allows every dimension, in list order;
3. for every filter in key order: the metric allows its key, it has values, and
   the dimension accepts each value in order;
4. the range is not inverted, and its start and then its end lie in the horizon.

What passes is the query with repeated dimensions and repeated filter values
removed, each at its first occurrence.
-/

namespace SemanticLayer

/-- Why a query may not be compiled. -/
inductive ValidationError where
  | unknownMetric (name : String)
  | dimensionNotAllowed (dimension metric : String)
  | emptyFilter (dimension : String)
  /-- The dimension's closed set of values lacks the value. -/
  | invalidFilterValue (dimension value : String)
  | range (e : RangeError)
deriving DecidableEq

namespace ValidationError

def kind : ValidationError → String
  | unknownMetric _ => "UnknownMetric"
  | dimensionNotAllowed .. => "DimensionNotAllowed"
  | emptyFilter _ => "EmptyFilter"
  | invalidFilterValue .. => "InvalidFilterValue"
  | range e => e.kind

def message : ValidationError → String
  | unknownMetric name => "Unknown metric: " ++ name
  | dimensionNotAllowed dimension metric =>
    "Dimension " ++ dimension ++ " is not allowed for metric " ++ metric
  | emptyFilter dimension => "Filter on " ++ dimension ++ " has no values"
  | invalidFilterValue dimension value =>
    "Value " ++ Text.quoted value ++ " is not a known " ++ dimension
  | range e => e.message

end ValidationError

/-- The list without repetitions, each element at its first occurrence. -/
def firstOccurrences {α : Type} [BEq α] (xs : List α) : List α :=
  go [] xs
where
  /-- The elements of the list that are not among those seen, each once. -/
  go (seen : List α) : List α → List α
    | [] => []
    | x :: rest => if seen.contains x then go seen rest else x :: go (x :: seen) rest

/-- Accepts the dimensions that a metric allows. -/
def Metric.checkDimension (m : Metric) (dimension : String) : Except ValidationError Unit :=
  if m.allows dimension then .ok () else .error (.dimensionNotAllowed dimension m.name)

/-- Accepts the values that a dimension's filter may name. -/
def Dimension.checkValue (d : Dimension) (key value : String) : Except ValidationError Unit :=
  if d.accepts value then .ok () else .error (.invalidFilterValue key value)

/-- Accepts a filter of a query on the metric. -/
def Catalog.checkFilter (c : Catalog) (m : Metric) (filter : String × List String) :
    Except ValidationError Unit := do
  m.checkDimension filter.1
  if filter.2.isEmpty then throw (.emptyFilter filter.1)
  match c.dimension filter.1 with
  | .error _ => throw (.dimensionNotAllowed filter.1 m.name)
  | .ok d => filter.2.forM (d.checkValue filter.1)

namespace MetricQuery

/-- The query with repeated dimensions and repeated filter values removed. -/
def withoutRepetitions (q : MetricQuery) : MetricQuery :=
  { q with
    dimensions := firstOccurrences q.dimensions
    filters := q.filters.mapValues firstOccurrences }

/-- The checks of a query in their order. -/
def check (c : Catalog) (s : Spine) (q : MetricQuery) : Except ValidationError Unit := do
  let m ← match c.metric q.metric with
    | .ok m => pure m
    | .error _ => throw (.unknownMetric q.metric)
  q.dimensions.forM m.checkDimension
  q.filters.entries.forM (c.checkFilter m)
  match s.checkRange q.start q.stop with
  | .ok () => pure ()
  | .error e => throw (.range e)

end MetricQuery

/-- A query that passed every check of a catalog and a spine, without repetitions. -/
structure ValidQuery (c : Catalog) (s : Spine) where
  query : MetricQuery
  accepted : ∃ q, MetricQuery.check c s q = .ok () ∧ query = q.withoutRepetitions

/-- Accepts a query, or gives the first check that fails. -/
def MetricQuery.validate (c : Catalog) (s : Spine) (q : MetricQuery) :
    Except ValidationError (ValidQuery c s) :=
  match h : q.check c s with
  | .ok () => .ok ⟨q.withoutRepetitions, q, h, rfl⟩
  | .error e => .error e

end SemanticLayer
