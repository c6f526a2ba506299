import ScriptBridge.Check.Error
import ScriptBridge.Text.Alternatives

/-!
# Errors of host functions

A `ConversionError` says that a script value could not be taken as a host value. A `HostError` is
what a host function may answer instead of a value.
-/

namespace ScriptBridge

/-- Why a script value could not be taken as a host value. -/
inductive ConversionError
  /-- The value has another type. -/
  | mismatch (wants got : String)
  /-- There is no argument at this place. -/
  | missing (place : Nat)
deriving DecidableEq

/-- The text of the error. -/
def ConversionError.message : ConversionError → String
  | mismatch wants got => "type mismatch: expected " ++ wants ++ ", got " ++ got
  | missing place => "missing argument at position " ++ toString place

/-- An error answered by a host function. -/
inductive HostError
  /-- A value failed a type check inside the function. -/
  | type (error : TypeError)
  /-- The function rejected an argument, whose type is not among those it takes. -/
  | rejected (got : String) (takes : List String)
  | conversion (error : ConversionError)
  | other (text : String)
deriving DecidableEq

/-- The text of the error. -/
def HostError.message : HostError → String
  | type error => error.message
  | rejected got takes => "got type " ++ got ++ " but need type " ++ Text.alternatives takes
  | conversion error => "conversion error: " ++ error.message
  | other text => text

end ScriptBridge
