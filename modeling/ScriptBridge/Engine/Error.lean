import ScriptBridge.Builtin.Error
import ScriptBridge.Script.Position
import ScriptBridge.Setting.Error

/-!
# Errors of the engine

An `EngineError` is any error that the library reports to a host.
-/

namespace ScriptBridge

/-- Why a source file gives no source text. -/
inductive ReadError
  | notFound
  /-- The bytes are not UTF-8. -/
  | notText
  | other (text : String)
deriving DecidableEq

/-- The text of the error. -/
def ReadError.message : ReadError → String
  | notFound => "no such file"
  | notText => "stream did not contain valid UTF-8"
  | other text => text

/-- Any error reported to a host. -/
inductive EngineError
  | setting (error : SettingError)
  | call (error : CallError)
  | scope (error : ScopeError)
  | type (error : TypeError)
  | script (error : ScriptError)
  | unreadable (path : String) (cause : ReadError)
  | noEvaluator
deriving DecidableEq

/-- The text of the error. -/
def EngineError.message : EngineError → String
  | setting error => error.message
  | call error => error.message
  | scope error => error.message
  | type error => error.message
  | script error => error.message
  | unreadable path cause => "failed to read " ++ path ++ ": " ++ cause.message
  | noEvaluator => "no evaluator installed"

end ScriptBridge
