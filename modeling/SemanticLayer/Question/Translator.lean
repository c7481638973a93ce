import SemanticLayer.Question.Chat
import SemanticLayer.Question.DatePhrase
import SemanticLayer.Question.Keywords
import SemanticLayer.Text.Duration

/-
# From questions to valid queries

A provider reads a question into a candidate, of which nothing is trusted:
names are resolved by the catalog, the range of days comes from phrases, and
the result passes the checks of every query.  The range is

1. what the phrases of the question say,
2. else what the candidate's date phrase says,
3. else the candidate's two dates, both of which have to be there.
-/

namespace SemanticLayer

/-- What reads questions. -/
inductive Provider where
  /-- The terms of the catalog are looked for in the question. -/
  | keywords
  /-- A chat server is asked. -/
  | chat (server : Chat.Server)
  /-- A provider of which only its id is known. -/
  | other (id : String)
deriving DecidableEq

/-- What comes of asking a provider. -/
inductive Reading where
  | read (result : Except ProviderError Candidate)
  /-- There was no answer in time. -/
  | late

/-- Why a question becomes no query. -/
inductive QuestionError where
  | ambiguousRange (phrase : String)
  | ambiguousSynonym (term : String) (candidates : List String)
  | unavailable (reason : String)
  /-- There was no answer within so many nanoseconds. -/
  | timeout (limit : Nat)
  | malformed (reason : String)
  | unknownProvider (id : String)
  | missingMetric
  | invalid (e : ValidationError)
deriving DecidableEq

namespace QuestionError

def kind : QuestionError → String
  | ambiguousRange _ => "AmbiguousDateRange"
  | ambiguousSynonym .. => "AmbiguousSynonym"
  | unavailable _ => "ProviderUnavailable"
  | timeout _ => "ProviderTimeout"
  | malformed _ => "MalformedResponse"
  | unknownProvider _ => "UnknownProvider"
  | missingMetric => "MissingMetric"
  | invalid e => e.kind

def message : QuestionError → String
  | ambiguousRange phrase => (AmbiguousRange.mk phrase).message
  | ambiguousSynonym term candidates => (ProviderError.ambiguous term candidates).message
  | unavailable reason => (ProviderError.unavailable reason).message
  | timeout limit => "Provider did not answer within " ++ Text.durationText limit
  | malformed reason => (ProviderError.malformed reason).message
  | unknownProvider id => "Unknown provider: " ++ id
  | missingMetric => "No metric found in the question"
  | invalid e => e.message

/-- A provider's failure as a failure of the question. -/
def ofProvider : ProviderError → QuestionError
  | .unavailable reason => unavailable reason
  | .malformed reason => malformed reason
  | .ambiguous term candidates => ambiguousSynonym term candidates

/-- A failure to resolve a name as a failure of the question. -/
def ofCatalog : CatalogError → QuestionError
  | .ambiguousSynonym term candidates => ambiguousSynonym term candidates
  | .unknownMetric name => invalid (.unknownMetric name)
  | e => malformed e.message

end QuestionError

/-- The id of the provider that looks for keywords. -/
def keywordsId : String := "rules"

/-- What turns questions into queries. -/
structure Translator where
  catalog : Catalog
  spine : Spine
  /-- The providers by their ids, aliases included. -/
  providers : List (String × Provider)
  /-- The id of the provider that is asked when a question names none. -/
  usual : String
  /-- How long a provider may take, in nanoseconds. -/
  limit : Nat

namespace Translator

/-! ### Providers -/

/-- A translator with the provider that looks for keywords. -/
def basic (c : Catalog) (s : Spine) (limit : Nat) : Translator :=
  { catalog := c, spine := s, providers := [(keywordsId, .keywords)], usual := keywordsId, limit }

/-- The provider of an id. -/
def provider? (t : Translator) (id : String) : Option Provider := t.providers.lookup id

/-- Makes a provider known under an id, in place of any other. -/
def withProvider (t : Translator) (id : String) (p : Provider) : Translator :=
  { t with providers := (id, p) :: t.providers.filter (·.1 != id) }

/-- Makes a known provider known under another id too. -/
def withAlias (t : Translator) (other id : String) : Translator :=
  match t.provider? id with
  | some p => t.withProvider other p
  | none => t

/-- Sets the provider that is asked when a question names none. -/
def withUsual (t : Translator) (id : String) : Translator := { t with usual := id }

/-- The ids of the providers, ascending. -/
def providerIds (t : Translator) : List String := (t.providers.map (·.1)).mergeSort

/-- The provider to ask. -/
def choose (t : Translator) (id : Option String) : Except QuestionError Provider :=
  let id := id.getD t.usual
  match t.provider? id with
  | some p => .ok p
  | none => .error (.unknownProvider id)

/-- What a provider reads; `outside` is the answer of one that is not part of this library. -/
def reading (t : Translator) (p : Provider) (question : String) (outside : Reading) : Reading :=
  match p with
  | .keywords => .read (Keywords.read t.catalog.hint question)
  | _ => outside

/-! ### Candidates -/

/-- A result of the catalog, its error as a failure of the question. -/
def ofCatalog {α : Type} : Except CatalogError α → Except (Fault QuestionError) α
  | .ok a => .ok a
  | .error e => .error (.error (.ofCatalog e))

/-- The metric that a candidate names. -/
def metricOf (c : Catalog) (candidate : Candidate) : Except (Fault QuestionError) String :=
  match candidate.metric >>= Text.nonBlank? with
  | some term => ofCatalog (c.resolveMetric term)
  | none => .error (.error .missingMetric)

/-- The dimensions that a candidate names. -/
def dimensionsOf (c : Catalog) (candidate : Candidate) :
    Except (Fault QuestionError) (List String) :=
  ofCatalog (candidate.dimensions.mapM c.resolveDimension)

/-- The filters of a candidate by the dimensions that their keys name. -/
def filtersOf (c : Catalog) (candidate : Candidate) : Except (Fault QuestionError) Filters :=
  candidate.filters.entries.foldlM (fun f (key, values) => do
    return f.add (← ofCatalog (c.resolveDimension key)) values) Filters.empty

/-- The range that the phrases of a text say. -/
def phraseRange (text : String) (today : Date) :
    Except (Fault QuestionError) (Option (Date × Date)) :=
  match DatePhrase.resolve text today with
  | .ok range => .ok range
  | .error (.error e) => .error (.error (.ambiguousRange e.phrase))
  | .error (.broken b) => .error (.broken b)

/-- A date of a candidate. -/
def candidateDate (text : String) : Except (Fault QuestionError) Date :=
  match Date.ofField? text with
  | some d => .ok d
  | none => .error (.error (.ambiguousRange text))

/-- The range of a candidate's two dates. -/
def candidateRange (question : String) (candidate : Candidate) :
    Except (Fault QuestionError) (Date × Date) :=
  match candidate.start >>= Text.nonBlank?, candidate.stop >>= Text.nonBlank? with
  | some start, some stop => do return (← candidateDate start, ← candidateDate stop)
  | none, none =>
    .error (.error (.ambiguousRange ("no time range in " ++ Text.quoted question)))
  | _, _ => .error (.error (.ambiguousRange "only one end of the range was given"))

/-- The range of days that a question with its candidate asks about. -/
def rangeOf (question : String) (candidate : Candidate) (today : Date) :
    Except (Fault QuestionError) (Date × Date) := do
  match ← phraseRange question today with
  | some range => return range
  | none =>
    match candidate.timePhrase >>= Text.nonBlank? with
    | some phrase =>
      match ← phraseRange phrase today with
      | some range => return range
      | none => throw (.error (.ambiguousRange phrase))
    | none => candidateRange question candidate

/-- The query of a candidate, before its checks. -/
def resolve (c : Catalog) (question : String) (candidate : Candidate) (today : Date) :
    Except (Fault QuestionError) MetricQuery := do
  let metric ← metricOf c candidate
  let dimensions ← dimensionsOf c candidate
  let filters ← filtersOf c candidate
  let (start, stop) ← rangeOf question candidate today
  return { metric, dimensions, filters, grain := candidate.grain.getD .day, start, stop }

/-- The checks of a query, their error as a failure of the question. -/
def validate (c : Catalog) (s : Spine) (q : MetricQuery) :
    Except (Fault QuestionError) (ValidQuery c s) :=
  match q.validate c s with
  | .ok v => .ok v
  | .error e => .error (.error (.invalid e))

/-- The valid query of a reading. -/
def finish (t : Translator) (question : String) (today : Date) :
    Reading → Except (Fault QuestionError) (ValidQuery t.catalog t.spine)
  | .late => .error (.error (.timeout t.limit))
  | .read (.error e) => .error (.error (.ofProvider e))
  | .read (.ok candidate) => do
    validate t.catalog t.spine (← resolve t.catalog question candidate today)

/-- The valid query of a question; `outside` tells what providers outside of this library answer. -/
def translate (t : Translator) (outside : Provider → Reading) (question : String)
    (id : Option String) (today : Date) :
    Except (Fault QuestionError) (ValidQuery t.catalog t.spine) :=
  match t.choose id with
  | .error e => .error (.error e)
  | .ok p => t.finish question today (t.reading p question (outside p))

end Translator

end SemanticLayer
