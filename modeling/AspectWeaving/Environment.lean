import AspectWeaving.Dictionary
import AspectWeaving.Text.Blank

/-! Sources of configuration values, one behind the other. -/

namespace AspectWeaving

/-- Layers of named values, the first to be consulted first. -/
structure Environment where
  layers : List (Dictionary String String)

/-- Why a configuration value is of no use. -/
inductive EnvironmentError where
  | invalidBoolean (key value : String)
deriving DecidableEq, Repr

/-- What a configuration value of no use is answered with. -/
def EnvironmentError.message : EnvironmentError → String
  | .invalidBoolean key value =>
    "Invalid value for " ++ key ++ ": " ++ value
      ++ ". Expected true, 1, yes, on, enabled, enable OR false, 0, no, off, disabled, disable"

namespace Environment

/-- The environment without values. -/
def empty : Environment := ⟨[]⟩

/-- An environment with nothing behind its values. -/
def closed (values : Dictionary String String) : Environment := ⟨[values]⟩

/-- An environment that falls back to another one. -/
def fallingBack (values : Dictionary String String) (fallback : Environment) : Environment :=
  ⟨values :: fallback.layers⟩

/-- The value of a key in the first layer that has one. -/
def get? (environment : Environment) (key : String) : Option String :=
  environment.layers.findSome? fun layer => layer.get? key

/-- The value of a key, or the default. -/
def getD (environment : Environment) (key default : String) : String :=
  (environment.get? key).getD default

/-- The spellings of true. -/
def trueWords : List String := ["true", "1", "yes", "on", "enabled", "enable"]

/-- The spellings of false. -/
def falseWords : List String := ["false", "0", "no", "off", "disabled", "disable"]

/-- Reads a truth value; case and outer blanks do not matter. -/
def readBool? (value : String) : Option Bool :=
  -- No letter outside ASCII has a lower-case form that occurs in one of the words.
  let word := String.ofList ((Text.trim value.toList).map Char.toLower)
  if trueWords.contains word then some true
  else if falseWords.contains word then some false
  else none

/-- The truth value of a key, or the default if the key has no value. -/
def enabled (environment : Environment) (key : String) (default : Bool) :
    Except EnvironmentError Bool :=
  match environment.get? key with
  | none => .ok default
  | some value =>
    match readBool? value with
    | some flag => .ok flag
    | none => .error (.invalidBoolean key value)

end Environment

end AspectWeaving
