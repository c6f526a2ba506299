import ScriptBridge.Host.Error
import ScriptBridge.Value.Basic

/-!
# What host functions produce

A host function takes a list of arguments and produces outputs, one for each declared return if it
keeps its declaration. What the functions compute is the host's: `Hooks m` answers the outputs of
every function reference, with the effects of the monad `m`. Nothing is checked at this level.
-/

namespace ScriptBridge

/-- One produced return: a value, or the place of the error, which was raised or not. -/
inductive Output
  | value (v : Value)
  | error (raised : Option HostError)

/-- The error that an output raises. -/
def Output.failure? : Output → Option HostError
  | value _ => none
  | error raised => raised

/-- What each host function does with its arguments. -/
abbrev Hooks (m : Type → Type) := HostFn → List Value → m (List Output)

end ScriptBridge
