import SemanticLayer.Service.Dialogue
import SemanticLayer.Service.Request

/-
# The service

A service answers requests over one catalog and one spine.  A form gives its
query as it is, a question is translated into one; both are then validated,
compiled and let through the gate, and only what has come that far is sent to
the store.
-/

namespace SemanticLayer

structure Service where
  translator : Translator
  source : SpineSource

namespace Service

def catalog (s : Service) : Catalog := s.translator.catalog
def spine (s : Service) : Spine := s.translator.spine

def compiler (s : Service) : Compiler := ⟨s.catalog, s.spine, s.source⟩

/-- The text of a query's statement, let through the gate. -/
def statement (s : Service) (v : ValidQuery s.catalog s.spine) :
    Except (Fault ServiceError) String :=
  match s.compiler.compile v with
  | .error (.error e) => .error (.error (.compile e))
  | .error (.broken b) => .error (.broken b)
  | .ok sql =>
    match Sql.checkReadOnly sql with
    | .error (.error e) => .error (.error (.compile (.gate e)))
    | .error (.broken b) => .error (.broken b)
    | .ok () => .ok sql

/-- Sends the statement of a query to the store and answers with its rows. -/
def execute (s : Service) (v : ValidQuery s.catalog s.spine) (respond : ResultTable → Response) :
    Dialogue :=
  match s.statement v with
  | .error e => .done (.error e)
  | .ok sql =>
    .execute sql fun
      | .error e => .done (.ofError (.execution e))
      | .ok rows => .done (.ok (respond ⟨v.query.metric, rows, sql⟩))

/-- Answers a form. -/
def query (s : Service) (q : MetricQuery) : Dialogue :=
  match q.validate s.catalog s.spine with
  | .error e => .done (.ofError (.validation e))
  | .ok v => s.execute v .rows

/-- Goes on with what a question was read as. -/
def understand (s : Service) (q : Question) (today : Date) (r : Reading) : Dialogue :=
  match s.translator.finish q.text today r with
  | .error (.error e) => .done (.ofError (.question e))
  | .error (.broken b) => .done (.error (.broken b))
  | .ok v => s.execute v fun t => .understood t v.query q.text

/-- Answers a question. -/
def natural (s : Service) (q : Question) (today : Date) : Dialogue :=
  match s.translator.choose q.provider with
  | .error e => .done (.ofError (.question e))
  | .ok .keywords => s.understand q today (.read (Keywords.read s.catalog.hint q.text))
  | .ok p => .ask p q.text (s.understand q today)

/-- Answers a request. -/
def answer (s : Service) (today : Date) : Request → Dialogue
  | .listMetrics => .done (.ok (.metrics s.catalog.summaries))
  | .query q => s.query q
  | .natural q => s.natural q today

/-- Answers a line. -/
def answerLine (s : Service) (today : Date) (line : String) : Dialogue :=
  match Request.read line with
  | .error problem => .done (.ofError (.badRequest problem))
  | .ok r => s.answer today r

end Service

end SemanticLayer
