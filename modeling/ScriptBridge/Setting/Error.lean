import ScriptBridge.Host.Error
import ScriptBridge.Scope.Basic

/-!
# Errors of settings

Why a setting is not created, not updated or not read.
-/

namespace ScriptBridge

/-- An error of a setting or of a registry of settings. -/
inductive SettingError
  /-- The registry holds a setting of this name already. -/
  | alreadyExists (name : String)
  /-- No type can be inferred from a nil default. -/
  | missingDefault
  /-- A required setting has no value in the scope. -/
  | required (name : String)
  | type (error : TypeError)
  | scope (error : ScopeError)
  | conversion (error : ConversionError)
deriving DecidableEq

namespace SettingError

/-- The text of the error. -/
def message : SettingError → String
  | alreadyExists name => "key already exists in map: " ++ name
  | missingDefault => "default value required"
  | required name => name ++ ": required but unset"
  | type error => error.message
  | scope error => error.message
  | conversion error => error.message

/-- The setting the error is about, if the error carries its name. -/
def settingName? : SettingError → Option String
  | alreadyExists name => some name
  | required name => some name
  | type error => error.field?
  | _ => none

end SettingError

end ScriptBridge
