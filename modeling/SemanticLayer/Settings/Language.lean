import SemanticLayer.Question.Translator
import SemanticLayer.Settings.Environment

/-
# Settings of the providers
-/

namespace SemanticLayer

/-- The settings of the providers. -/
structure LanguageSettings where
  /-- The id of the provider that is asked when a question names none. -/
  usual : String
  localServer : Chat.Server
  openaiBase : String
  openaiModel : String
  /-- The hosted server is used only with a key. -/
  openaiKey : Option String
  timeoutSeconds : Nat
deriving DecidableEq

namespace LanguageSettings

/-- The settings that hold where nothing else is said. -/
def standard : LanguageSettings :=
  { usual := keywordsId
    localServer := ⟨"http://localhost:1234/v1", "local-model", none⟩
    openaiBase := "https://api.openai.com/v1"
    openaiModel := "gpt-3.5-turbo"
    openaiKey := none
    timeoutSeconds := 30 }

def ofEnvironment (e : Environment) : Except SettingError LanguageSettings := do
  return {
    usual := e.text "LLM_PROVIDER" standard.usual
    localServer :=
      { base := e.text "LLM_BASE_URL" standard.localServer.base
        model := e.text "LLM_MODEL" standard.localServer.model
        key := e.lookup "LLM_API_KEY" }
    openaiBase := e.text "OPENAI_BASE_URL" standard.openaiBase
    openaiModel := e.text "OPENAI_MODEL" standard.openaiModel
    openaiKey := e.lookup "OPENAI_API_KEY"
    timeoutSeconds := ← e.setting "LLM_TIMEOUT_SECS" (wholeNumber? (Nat.pow 2 64))
      standard.timeoutSeconds }

/-- How long a provider may take, in nanoseconds. -/
def limit (l : LanguageSettings) : Nat := l.timeoutSeconds * 1000000000

/-- The hosted server, if there is a key for it. -/
def openai? (l : LanguageSettings) : Option Chat.Server :=
  l.openaiKey.map fun key => ⟨l.openaiBase, l.openaiModel, some key⟩

/-- The translator of some settings: keywords, the local server under three ids, and the hosted one. -/
def translator (l : LanguageSettings) (c : Catalog) (s : Spine) : Translator :=
  let t := ((Translator.basic c s l.limit).withProvider "local" (.chat l.localServer)).withUsual
    l.usual
  let t := (t.withAlias "lmstudio" "local").withAlias "deepseek" "local"
  match l.openai? with
  | some server => t.withProvider "openai" (.chat server)
  | none => t

end LanguageSettings

end SemanticLayer
