import SemanticLayer.Query.Document

/-
# Candidates: what a provider reads out of a question

A candidate is not trusted.  Its names may be labels or synonyms, its dates may
be missing, and any part of it may be wrong.
-/

namespace SemanticLayer

open Json Json.Decoder

structure Candidate where
  metric : Option String
  dimensions : List String
  filters : Filters
  /-- A date phrase as the question has it. -/
  timePhrase : Option String
  start : Option String
  stop : Option String
  grain : Option Grain
deriving DecidableEq

namespace Candidate

/-- The candidate that says nothing. -/
def blank : Candidate := ⟨none, [], .empty, none, none, none, none⟩

/-- Reads a candidate.  Any field may be missing or null. -/
def decoder : Decoder Candidate :=
  record "struct ParsedCandidate" [
    .spare ["metric_name"] (optional text) fun v c => { c with metric := v },
    .spare ["dimensions"] (orDefault [] (Decoder.list text)) fun v c => { c with dimensions := v },
    .spare ["filters"] (orDefault .empty Filters.decoder) fun v c => { c with filters := v },
    .spare ["time_phrase", "time_keyword"] (optional text) fun v c => { c with timePhrase := v },
    .spare ["start_date"] (optional text) fun v c => { c with start := v },
    .spare ["end_date"] (optional text) fun v c => { c with stop := v },
    .spare ["granularity", "time_granularity"] (optional Grain.decoder)
      fun v c => { c with grain := v }] blank

def toJson (c : Candidate) : Json :=
  .object [("metric_name", Json.optional c.metric), ("dimensions", .strings c.dimensions),
    ("filters", c.filters.toJson), ("time_phrase", Json.optional c.timePhrase),
    ("start_date", Json.optional c.start), ("end_date", Json.optional c.stop),
    ("granularity", Json.optional (c.grain.map Grain.name))]

end Candidate

/-- Why a provider gives no candidate. -/
inductive ProviderError where
  | unavailable (reason : String)
  | malformed (reason : String)
  /-- The question names several entries where one is needed. -/
  | ambiguous (term : String) (candidates : List String)
deriving DecidableEq

namespace ProviderError

def kind : ProviderError → String
  | unavailable _ => "Unavailable"
  | malformed _ => "Malformed"
  | ambiguous .. => "Ambiguous"

def message : ProviderError → String
  | unavailable reason => "Provider unavailable: " ++ reason
  | malformed reason => "Malformed provider response: " ++ reason
  | ambiguous term candidates =>
    "Term " ++ Text.quoted term ++ " matches several catalog entries: " ++
      ", ".intercalate candidates

end ProviderError

end SemanticLayer
