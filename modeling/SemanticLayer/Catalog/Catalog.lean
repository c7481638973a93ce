import SemanticLayer.Catalog.Model
import SemanticLayer.Text.Blank
import SemanticLayer.Text.Lowercase
import SemanticLayer.Text.Quoted

/-
# The catalog: a model that has passed its checks

`Catalog.ofModel` accepts a model when its tables and columns are identifiers,
its names are distinct, every allowed dimension is defined, and exactly the
ratios have a denominator.  The checks run in document order, the dimensions
before the metrics, and the first that fails is the error.

`Catalog.resolveMetric` and `Catalog.resolveDimension` map a term of a question
to a name: a name wins over labels and synonyms, and letter case and outer
blanks do not count.
-/

namespace SemanticLayer

/-- The two kinds of named entries. -/
inductive EntryKind where
  | metric | dimension
deriving DecidableEq

def EntryKind.name : EntryKind → String
  | metric => "metric"
  | dimension => "dimension"

/-- What is wrong with a model, or with a name looked up in a catalog. -/
inductive CatalogError where
  | unknownMetric (name : String)
  | unknownDimension (name : String)
  /-- A metric allows a dimension that the model does not define. -/
  | undefinedAllowedDimension (metric dimension : String)
  | duplicateName (kind : EntryKind) (name : String)
  /-- A name, column, key or table is not spelled as an identifier. -/
  | invalidIdentifier (context value : String)
  | missingDenominator (metric : String)
  | unexpectedDenominator (metric : String)
  /-- A term is the label or a synonym of several entries. -/
  | ambiguousSynonym (term : String) (candidates : List String)
deriving DecidableEq

namespace CatalogError

def kind : CatalogError → String
  | unknownMetric _ => "UnknownMetric"
  | unknownDimension _ => "UnknownDimension"
  | undefinedAllowedDimension .. => "UndefinedAllowedDimension"
  | duplicateName .. => "DuplicateName"
  | invalidIdentifier .. => "InvalidIdentifier"
  | missingDenominator _ => "MissingDenominator"
  | unexpectedDenominator _ => "UnexpectedDenominator"
  | ambiguousSynonym .. => "AmbiguousSynonym"

def message : CatalogError → String
  | unknownMetric name => "Unknown metric: " ++ name
  | unknownDimension name => "Unknown dimension: " ++ name
  | undefinedAllowedDimension metric dimension =>
    "Metric " ++ metric ++ " allows dimension " ++ dimension ++ " which is not defined"
  | duplicateName kind name => "Duplicate " ++ kind.name ++ " name: " ++ name
  | invalidIdentifier context value =>
    "Invalid identifier in " ++ context ++ ": " ++ Text.quoted value
  | missingDenominator metric => "Ratio metric " ++ metric ++ " needs a denominator_column"
  | unexpectedDenominator metric =>
    "Metric " ++ metric ++ " is not a ratio but declares a denominator_column"
  | ambiguousSynonym term candidates =>
    "Term " ++ Text.quoted term ++ " matches several catalog entries: " ++
      ", ".intercalate candidates

end CatalogError

namespace Identifier

/-- The characters an identifier may start with. -/
def isStart (c : Char) : Bool := c.isAlpha || c == '_'

/-- The characters an identifier may go on with. -/
def isPart (c : Char) : Bool := c.isAlphanum || c == '_'

/-- Identifiers are ASCII letters, digits and underscores, and do not start with a digit. -/
def ok (cs : List Char) : Bool :=
  match cs with
  | [] => false
  | c :: rest => isStart c && rest.all isPart

/-- The parts of a text between its dots; a text without a dot is one part. -/
def parts : List Char → List (List Char)
  | [] => [[]]
  | c :: rest =>
    if c = '.' then [] :: parts rest
    else
      match parts rest with
      | [] => [[c]]
      | part :: more => (c :: part) :: more

/-- Table names are identifiers joined by dots. -/
def tableOk (s : String) : Bool := (parts s.toList).all ok

end Identifier

/-- Accepts identifiers. -/
def checkIdentifier (value context : String) : Except CatalogError Unit :=
  if Identifier.ok value.toList then .ok () else .error (.invalidIdentifier context value)

/-- Accepts table names. -/
def checkTable (value context : String) : Except CatalogError Unit :=
  if Identifier.tableOk value then .ok () else .error (.invalidIdentifier context value)

/-- Accepts a dimension, given the names defined before it. -/
def Dimension.check (earlier : List String) (d : Dimension) : Except CatalogError Unit := do
  checkIdentifier d.name "dimension name"
  checkIdentifier d.sourceColumn d.name
  if let some join := d.join then
    checkTable join.table d.name
    checkIdentifier join.foreignKey d.name
    checkIdentifier join.primaryKey d.name
  if earlier.contains d.name then throw (.duplicateName .dimension d.name)

/-- Accepts a metric with a denominator exactly when it is a ratio. -/
def Metric.checkDenominator (m : Metric) : Except CatalogError Unit :=
  match m.aggregation, m.denominatorColumn with
  | .ratio, some column => checkIdentifier column m.name
  | .ratio, none => .error (.missingDenominator m.name)
  | _, some _ => .error (.unexpectedDenominator m.name)
  | _, none => .ok ()

/-- Accepts a metric, given the names defined before it and the dimensions of the model. -/
def Metric.check (dimensions earlier : List String) (m : Metric) : Except CatalogError Unit := do
  checkIdentifier m.name "metric name"
  checkIdentifier m.sourceColumn m.name
  m.checkDenominator
  if let some dimension := m.allowedDimensions.find? fun d => !dimensions.contains d then
    throw (.undefinedAllowedDimension m.name dimension)
  if earlier.contains m.name then throw (.duplicateName .metric m.name)

/-- Runs a check over a list; each entry sees the names of those before it. -/
def checkEach {α : Type} (name : α → String) (check : List String → α → Except CatalogError Unit) :
    List String → List α → Except CatalogError Unit
  | _, [] => .ok ()
  | earlier, a :: rest => do
    check earlier a
    checkEach name check (name a :: earlier) rest

/-- The checks of a model in their order. -/
def Model.check (m : Model) : Except CatalogError Unit := do
  checkTable m.fact.table "fact table"
  checkIdentifier m.fact.dateColumn "fact date column"
  checkEach Dimension.name Dimension.check [] m.dimensions
  checkEach Metric.name (Metric.check (m.dimensions.map Dimension.name)) [] m.metrics

/-- A model that passed its checks. -/
structure Catalog where
  model : Model
  checked : model.check = .ok ()

/-- The listing of a metric. -/
structure MetricSummary where
  name : String
  label : String
  unit : String
  description : String
deriving DecidableEq

def Metric.summary (m : Metric) : MetricSummary := ⟨m.name, m.label, m.unit, m.description⟩

namespace Catalog

/-- The catalog of a model, or the first check that fails. -/
def ofModel (m : Model) : Except CatalogError Catalog :=
  match h : m.check with
  | .ok () => .ok ⟨m, h⟩
  | .error e => .error e

def name (c : Catalog) : String := c.model.name
def fact (c : Catalog) : FactTable := c.model.fact
def metrics (c : Catalog) : List Metric := c.model.metrics
def dimensions (c : Catalog) : List Dimension := c.model.dimensions

/-- The metric of a name. -/
def metric (c : Catalog) (name : String) : Except CatalogError Metric :=
  match c.metrics.find? (·.name == name) with
  | some m => .ok m
  | none => .error (.unknownMetric name)

/-- The dimension of a name. -/
def dimension (c : Catalog) (name : String) : Except CatalogError Dimension :=
  match c.dimensions.find? (·.name == name) with
  | some d => .ok d
  | none => .error (.unknownDimension name)

/-- The listing of the metrics. -/
def summaries (c : Catalog) : List MetricSummary := c.metrics.map Metric.summary

end Catalog

/-- A name together with the other terms it goes by. -/
structure Entry where
  name : String
  label : String
  synonyms : List String
deriving DecidableEq

def Metric.entry (m : Metric) : Entry := ⟨m.name, m.label, m.synonyms⟩
def Dimension.entry (d : Dimension) : Entry := ⟨d.name, d.label, d.synonyms⟩

namespace Entry

/-- A term as it is compared: without outer blanks and in lower case. -/
def fold (term : String) : String := Text.lower (Text.trim term)

/-- Whether a folded term is the label or a synonym of an entry. -/
def goesBy (needle : String) (e : Entry) : Bool :=
  Text.lower e.label == needle || e.synonyms.any fun s => Text.lower s == needle

/-- The name that a term stands for.  A term that nothing matches stands for itself. -/
def resolve (entries : List Entry) (term : String) : Except CatalogError String :=
  let needle := fold term
  match entries.find? fun e => Text.lower e.name == needle with
  | some e => .ok e.name
  | none =>
    match (entries.filter (goesBy needle)).map Entry.name with
    | [] => .ok (Text.trim term)
    | [name] => .ok name
    | candidates => .error (.ambiguousSynonym term candidates)

end Entry

namespace Catalog

/-- The name of the metric that a term stands for. -/
def resolveMetric (c : Catalog) (term : String) : Except CatalogError String :=
  Entry.resolve (c.metrics.map Metric.entry) term

/-- The name of the dimension that a term stands for. -/
def resolveDimension (c : Catalog) (term : String) : Except CatalogError String :=
  Entry.resolve (c.dimensions.map Dimension.entry) term

end Catalog

end SemanticLayer
