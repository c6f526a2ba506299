import ScriptBridge.Engine.Basic
import ScriptBridge.Host.TypedFn

/-!
# Typed builtins

A host registers typed functions as they are, and each is declared when it is bound. Its parameters
may not have a declaration, which is a breach of contract like returns that cannot be bound. A new
builtin is declared before the engine looks at the name, another one for a builtin after that.
-/

namespace ScriptBridge

/-- A reference to a typed function under an identity, if its parameters can be declared. -/
def TypedFn.declare {m : Type → Type} (f : TypedFn m) (id : Nat) : Except ContractBreach HostFn :=
  match f.signature with
  | .ok signature => .ok ⟨id, signature⟩
  | .error breach => .error breach

namespace Engine

variable {ε : Type} {m : Type → Type}

/-- Declares a typed function and binds it under a name that is not taken. -/
def defineTyped (name : String) (id : Nat) (f : TypedFn m) :
    EStateM RegistrationError (Engine ε) Unit := fun e =>
  match f.declare id with
  | .ok fn => define name fn e
  | .error breach => .error (.contract breach) e

/-- Declares a typed function and binds it under the name of a builtin. -/
def redefineTyped (name : String) (id : Nat) (f : TypedFn m) :
    EStateM RegistrationError (Engine ε) Unit := fun e =>
  if e.isBuiltin name then
    match f.declare id with
    | .ok fn => redefine name fn e
    | .error breach => .error (.contract breach) e
  else .error (.scope (.unknownFunction name)) e

end Engine

end ScriptBridge
