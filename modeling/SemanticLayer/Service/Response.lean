import SemanticLayer.Catalog.Document
import SemanticLayer.Query.Compiler
import SemanticLayer.Query.Document
import SemanticLayer.Question.Translator
import SemanticLayer.Store.Row

/-
# Responses

A request is answered with the list of metrics, with the rows of a query, or
with an error.  The rows come with the statement that gave them; the answer to
a question also says how the question was understood.
-/

namespace SemanticLayer

/-- Why a request has no other answer. -/
inductive ServiceError where
  /-- The line is no request. -/
  | badRequest (problem : Json.Problem)
  /-- The line is longer than so many bytes. -/
  | tooLong (limit : Nat)
  | validation (e : ValidationError)
  | question (e : QuestionError)
  | compile (e : CompileError)
  | execution (e : StoreError)

namespace ServiceError

def kind : ServiceError → String
  | badRequest _ | tooLong _ => "BadRequest"
  | validation e => e.kind
  | question e => e.kind
  | compile (.gate (.unsafeText _)) => "UnsafeStatement"
  | compile _ => "CompileError"
  | execution _ => "ExecutionError"

def message : ServiceError → String
  | badRequest problem => problem.message
  | tooLong limit => "request line exceeds " ++ toString limit ++ " bytes"
  | validation e => e.message
  | question e => e.message
  | compile e => e.message
  | execution e => "Execution error: " ++ e.message

def toJson (e : ServiceError) : Json :=
  .object [("error", .string e.kind), ("message", .string e.message)]

end ServiceError

/-- The rows of a metric, and the statement that gave them. -/
structure ResultTable where
  metric : String
  rows : List Row
  sql : String

/-- The entries of a result in a document. -/
def ResultTable.entries (t : ResultTable) : List (String × Json) :=
  [("metric_name", .string t.metric),
    ("data", .list (t.rows.map fun r => .object (Json.lastOfEach r.entries))),
    ("query_sql", .string t.sql), ("row_count", .int t.rows.length)]

inductive Response where
  | metrics (summaries : List MetricSummary)
  | rows (t : ResultTable)
  /-- The rows of a question, and the query that it was understood as. -/
  | understood (t : ResultTable) (query : MetricQuery) (question : String)

def Response.toJson : Response → Json
  | metrics summaries => .list (summaries.map MetricSummary.toJson)
  | rows t => .object t.entries
  | understood t query question =>
    .object (t.entries ++ [("parsed_query", query.toJson), ("original_query", .string question)])

/-- What a request comes to: a response, an error, or nothing when a day off the calendar is
needed. -/
abbrev Outcome := Except (Fault ServiceError) Response

/-- An error as an outcome. -/
def Outcome.ofError (e : ServiceError) : Outcome := .error (.error e)

/-- The document of an outcome. -/
def Outcome.toJson? : Outcome → Option Json
  | .ok r => some r.toJson
  | .error (.error e) => some e.toJson
  | .error (.broken _) => none

end SemanticLayer
