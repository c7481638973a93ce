import SemanticLayer.Catalog.Document

/-
# Where model documents come from

A model is read from a file of JSON text, or from an object store, under the
key of its tenant.
-/

namespace SemanticLayer

/-- Why no model or catalog could be loaded. -/
inductive LoadError where
  /-- The file is missing, or is not text. -/
  | fileNotFound (path : String)
  | invalidJson (problem : Json.Problem)
  | objectStore (reason : String)
  | catalog (e : CatalogError)

namespace LoadError

def kind : LoadError → String
  | fileNotFound _ => "FileNotFound"
  | invalidJson _ => "InvalidJsonFormat"
  | objectStore _ => "ObjectStore"
  | catalog e => e.kind

def message : LoadError → String
  | fileNotFound path => "File not found: " ++ path
  | invalidJson problem => "Invalid JSON format: " ++ problem.message
  | objectStore reason => "Object store error: " ++ reason
  | catalog e => e.message

end LoadError

/-- The model in a document. -/
def Model.ofDocument (text : String) : Except LoadError Model :=
  match Model.read text with
  | .ok m => .ok m
  | .error problem => .error (.invalidJson problem)

/-- The model in a file, given what reading the file gave. -/
def Model.ofFile (path : String) (content : Option String) : Except LoadError Model :=
  match content with
  | some text => Model.ofDocument text
  | none => .error (.fileNotFound path)

/-- The catalog of a loaded model. -/
def Catalog.ofLoaded (m : Except LoadError Model) : Except LoadError Catalog := do
  match Catalog.ofModel (← m) with
  | .ok c => return c
  | .error e => throw (.catalog e)

end SemanticLayer
