import SemanticLayer.Settings.Environment
import SemanticLayer.Text.Lowercase

/-
# Settings of a deployment

Where a service listens, where its model comes from, and which database holds
the facts.
-/

namespace SemanticLayer

/-- Where a service that runs alone takes its model from. -/
inductive ModelSource where
  /-- The built-in model. -/
  | builtIn
  /-- A file of JSON. -/
  | file
deriving DecidableEq

namespace ModelSource

/-- The source of a name, in any case; an error is the text that says so. -/
def ofName (name : String) : Except String ModelSource :=
  match Text.lower name with
  | "local" => .ok builtIn
  | "json" => .ok file
  | other => .error ("unknown semantic model store: " ++ other)

/-- A source, as it is shown. -/
def describe : ModelSource → String
  | builtIn => "Local"
  | file => "Json"

end ModelSource

structure ServerSettings where
  host : String
  port : Nat
  model : ModelSource
deriving DecidableEq

def ServerSettings.ofEnvironment (e : Environment) : Except SettingError ServerSettings := do
  return {
    host := e.text "SERVER_HOST" "127.0.0.1"
    port := ← e.setting "SERVER_PORT" (wholeNumber? (Nat.pow 2 16)) 8090
    model := ← e.setting "SEMANTIC_MODEL_STORE" (ModelSource.ofName · |>.toOption) .builtIn }

structure DatabaseSettings where
  user : String
  password : String
  host : String
  database : String
deriving DecidableEq

def DatabaseSettings.ofEnvironment (e : Environment) : DatabaseSettings :=
  { user := e.text "POSTGRES_USER" "postgres"
    password := e.text "POSTGRES_PASSWORD" "postgres"
    host := e.text "POSTGRES_HOST" "localhost:5432"
    database := e.text "POSTGRES_DB" "toll" }

/-- A bucket of an object store, and the tenant whose model it holds. -/
structure BucketSettings where
  tenant : String
  bucket : String
deriving DecidableEq

def BucketSettings.ofEnvironment (e : Environment) : Except SettingError BucketSettings := do
  return { tenant := ← e.needed "TENANT", bucket := ← e.needed "S3_BUCKET_NAME" }

/-- The path of the file that holds the model. -/
def modelPath (e : Environment) : String := e.text "JSON_PATH" "semantic_model.json"

end SemanticLayer
