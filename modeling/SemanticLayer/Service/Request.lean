import SemanticLayer.Query.Document

/-
# Requests

A request is one line of JSON: an object with its operation under `op`, or a
list that starts with it.  What stands beside the operation is set aside and
read once the operation is known.

| operation | beside it |
| --- | --- |
| `list_metrics` | anything in an object, nothing in a list |
| `query` | a query |
| `natural` | `query`, the question, and `provider_id`, which may be left out |
-/

namespace SemanticLayer

open Json Json.Decoder

/-- A question, and the id of the provider that is to read it. -/
structure Question where
  text : String
  provider : Option String
deriving DecidableEq

def Question.decoder : Decoder Question :=
  record "struct NaturalLanguageRequest" [
    .needed "query" Decoder.text fun v q => { q with text := v },
    .spare ["provider_id"] (optional Decoder.text) fun v q => { q with provider := v }] ⟨"", none⟩

inductive Request where
  | listMetrics
  | query (q : MetricQuery)
  | natural (q : Question)
deriving DecidableEq

namespace Request

/-- What a request asks for. -/
inductive Operation where
  | listMetrics
  | query
  | natural
deriving DecidableEq

/-- The names of the operations. -/
def operations : List (List String × Operation) :=
  [(["list_metrics"], .listMetrics), (["query"], .query), (["natural"], .natural)]

/-- Accepts what stands beside an operation that needs nothing. -/
def nothing : Json → Except Flaw Unit
  | .list (item :: rest) => .error (.wrongLength (item :: rest).length "0 elements in sequence")
  | _ => .ok ()

/-- The request of an operation and what stands beside it. -/
def ofParts (operation : Operation) (beside : Json) : Except Flaw Request :=
  match operation with
  | .listMetrics => (fun _ => listMetrics) <$> nothing beside
  | .query => query <$> MetricQuery.decoder.ofJson .setAside beside
  | .natural => natural <$> Question.decoder.ofJson .setAside beside

/-- Reads a request. -/
def scan (depth : Nat) : Scan Request := do
  let (operation, beside) ← scanTagged "internally tagged enum Request" "op" operations depth
  Scan.ofExcept (ofParts operation beside)

/-- The request on a line. -/
def read (line : String) : Except Problem Request := (scan depthLimit).run line

end Request

end SemanticLayer
