import SemanticLayer.Calendar.DateText

/-
# Settings from the environment

A setting is the text of a variable, or a default where the variable is not
set.
-/

namespace SemanticLayer

/-- The variables that are set, by their names. -/
abbrev Environment := List (String × String)

/-- Why settings cannot be read. -/
inductive SettingError where
  | missing (name : String)
  | malformed (name : String)
deriving DecidableEq

namespace SettingError

def kind : SettingError → String
  | missing _ => "EnvVarMissing"
  | malformed _ => "ParseError"

def message : SettingError → String
  | missing name => "Environment variable " ++ name ++ " is missing"
  | malformed name => "Failed to parse environment variable " ++ name

end SettingError

namespace Environment

/-- The setting of a variable, if it is set. -/
def setting? {α : Type} (e : Environment) (name : String) (spell : String → Option α) :
    Except SettingError (Option α) :=
  match e.lookup name with
  | none => .ok none
  | some text =>
    match spell text with
    | some a => .ok (some a)
    | none => .error (.malformed name)

/-- The setting of a variable, or a default. -/
def setting {α : Type} (e : Environment) (name : String) (spell : String → Option α)
    (default : α) : Except SettingError α :=
  (·.getD default) <$> e.setting? name spell

/-- The text of a variable, or a default. -/
def text (e : Environment) (name default : String) : String :=
  (e.lookup name).getD default

/-- The text of a variable that has to be set. -/
def needed (e : Environment) (name : String) : Except SettingError String :=
  match e.lookup name with
  | some text => .ok text
  | none => .error (.missing name)

end Environment

/-- A whole number below a bound: digits, behind a plus or nothing. -/
def wholeNumber? (bound : Nat) (s : String) : Option Nat :=
  let digits := match s.toList with
    | '+' :: rest => rest
    | cs => cs
  if digits.isEmpty || !digits.all Char.isDigit then none
  else
    let n := digits.foldl (fun n c => n * 10 + (c.toNat - 48)) 0
    if n < bound then some n else none

/-- A date as documents write it. -/
def documentDate? (s : String) : Option Date := (Date.ofDocument s).toOption

end SemanticLayer
