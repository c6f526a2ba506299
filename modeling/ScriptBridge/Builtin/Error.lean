import ScriptBridge.Host.Error

/-!
# Call errors

Why a call of a builtin gives no value: the arguments do not fit the signature, the host function
answered an error, or it broke its own declaration.
-/

namespace ScriptBridge

/-- Why a call gives no value. -/
inductive CallError
  /-- Wrong number of arguments; the function was not called. -/
  | argumentCount (name signature : String)
  /-- An argument of the wrong type: found before the call at a place, or reported by the function
  itself without one. -/
  | argumentType (name : String) (place : Option Nat) (got : String) (takes : List String)
      (signature : String)
  /-- A type check inside the function failed. -/
  | type (error : TypeError)
  /-- The function answered an error. -/
  | host (error : HostError)
  /-- The function produced another number of returns than it declares. -/
  | outputCount (name : String) (declared produced : Nat)
deriving DecidableEq

namespace CallError

/-- The text of the error. -/
def message : CallError → String
  | argumentCount name signature =>
    "Incorrect number of parameters to function " ++ name ++ ".\n\n\t" ++ signature ++ "."
  | argumentType name _ got takes signature =>
    "Incorrect parameter type to function " ++ name ++ ".\n\n\tGot type " ++ got
      ++ " but need type " ++ Text.alternatives takes ++ ".\n\t" ++ signature
  | type error => error.message
  | host error => error.message
  | outputCount name declared produced =>
    name ++ ": host function produced " ++ toString produced ++ " return values, expected "
      ++ toString declared

/-- The function the error was raised for, if the error carries its name. -/
def functionName? : CallError → Option String
  | argumentCount name _ => some name
  | argumentType name _ _ _ _ => some name
  | outputCount name _ _ => some name
  | type error => error.field?
  | host _ => none

end CallError

end ScriptBridge
