import ScriptBridge.Value.Basic

/-!
# Scopes

A `Scope` is a namespace of script variables that can be read and written by name. A write answers
the state it leaves behind also when it fails.
-/

namespace ScriptBridge

/-- Why a scope refuses a read, a write or a builtin. -/
inductive ScopeError
  | undefined (name : String)
  | alreadyDefined (name : String)
  | isFunction (name : String)
  | notReadable (name : String)
  | unknownFunction (name : String)
deriving DecidableEq

/-- The text of the error. -/
def ScopeError.message : ScopeError → String
  | undefined name => "undefined variable: " ++ name
  | alreadyDefined name => "variable already defined: " ++ name
  | isFunction name => "function with that name already exists: " ++ name
  | notReadable name => "functions cannot be gotten: " ++ name
  | unknownFunction name => "no function by that name exists: " ++ name

/-- A namespace of script variables, kept in a state `σ`. -/
class Scope (σ : Type) where
  /-- Whether a name has a value other than nil. -/
  has : σ → String → Bool
  /-- Reads a variable. -/
  get : σ → String → Except ScopeError Value
  /-- Defines a variable, or replaces its value. -/
  set : String → Value → EStateM ScopeError σ Unit
  /-- Defines a variable that is not defined yet. -/
  declare : String → Value → EStateM ScopeError σ Unit

end ScriptBridge
