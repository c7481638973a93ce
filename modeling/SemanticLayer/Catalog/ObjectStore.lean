import SemanticLayer.Catalog.Storage
import SemanticLayer.Text.Address

/-
# Models in an object store

The model of a tenant is the object `tenant/semantic_model.json` of a bucket.
It is asked for by `GET /bucket/key`, which takes a bucket with a name; an
answer with any status but 200 is an error.  A request that fails on the side
of the store is made three times.
-/

namespace SemanticLayer.ObjectStore

/-- The key of a tenant's model. -/
def modelKey (tenant : String) : String := tenant ++ "/semantic_model.json"

/-- Whether a character stands in an address as it is. -/
def isPlain (c : Char) : Bool :=
  c.isAlphanum || c == '-' || c == '.' || c == '_' || c == '~'

/-- A text with all characters but the plain ones, and slashes where they are kept, as bytes. -/
def encoded (keepSlash : Bool) (s : String) : String :=
  String.ofList (s.toList.flatMap fun c =>
    if isPlain c || (keepSlash && c == '/') then [c]
    else (String.singleton c).toUTF8.toList.flatMap Text.Address.percent)

/-- The target of the request for a tenant's model. -/
def target (bucket tenant : String) : String :=
  "/" ++ encoded false bucket ++ "/" ++ encoded true (modelKey tenant) ++ "?x-id=GetObject"

/-- What comes of a request. -/
inductive Outcome where
  | answered (status : Nat) (body : String)
  /-- The store cannot be reached. -/
  | unreachable
deriving DecidableEq

/-- How often a request is made when it is answered with a status. -/
def attempts (status : Nat) : Nat :=
  if status = 500 ∨ status = 502 ∨ status = 503 ∨ status = 504 then 3 else 1

/-- How many requests for the model of a bucket reach the store. -/
def requests (bucket : String) : Outcome → Nat
  | .answered status _ => if bucket.isEmpty then 0 else attempts status
  | .unreachable => 0

/-- The model in the outcome of the request to a bucket. -/
def model (bucket : String) (outcome : Outcome) : Except LoadError Model :=
  if bucket.isEmpty then .error (.objectStore "failed to construct request")
  else
    match outcome with
    | .unreachable => .error (.objectStore "dispatch failure")
    | .answered status body =>
      if status = 200 then Model.ofDocument body else .error (.objectStore "service error")

end SemanticLayer.ObjectStore
