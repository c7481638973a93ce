import SemanticLayer.Service.Service
import SemanticLayer.Settings.Horizon
import SemanticLayer.Settings.Language

/-
# Setting up a service
-/

namespace SemanticLayer

/-- The service of a catalog under some settings. -/
def Service.ofSettings (c : Catalog) (s : SpineSettings) (l : LanguageSettings) :
    Except (Fault CompileError) Service := do
  let k ← s.compiler c
  return { translator := l.translator c k.spine, source := k.source }

end SemanticLayer
