import SemanticLayer.Query.Compiler
import SemanticLayer.Settings.Environment

/-
# Settings of the spine
-/

namespace SemanticLayer

/-- The horizon of a service, and the table that holds its days, if there is one. -/
structure SpineSettings where
  start : Date
  stop : Date
  table : Option String
deriving DecidableEq

namespace SpineSettings

/-- The horizon that holds where nothing else is said: 2020 to 2030. -/
def standard : SpineSettings :=
  { start := ⟨Calendar.dayNumber ⟨2020, 1, 1⟩, by decide⟩
    stop := ⟨Calendar.dayNumber ⟨2030, 12, 31⟩, by decide⟩
    table := none }

def ofEnvironment (e : Environment) : Except SettingError SpineSettings := do
  return {
    start := ← e.setting "DATE_SPINE_START" documentDate? standard.start
    stop := ← e.setting "DATE_SPINE_END" documentDate? standard.stop
    table := e.lookup "DATE_SPINE_TABLE" }

/-- The compiler of a catalog over the horizon. -/
def compiler (s : SpineSettings) (c : Catalog) : Except (Fault CompileError) Compiler :=
  match Spine.ofHorizon s.start s.stop with
  | .error (.error e) => .error (.error (.range e))
  | .error (.broken b) => .error (.broken b)
  | .ok spine =>
    match s.table with
    | none => .ok (.inlined c spine)
    | some name => ((Compiler.inlined c spine).withSpineTable name).mapError Fault.error

end SpineSettings

end SemanticLayer
