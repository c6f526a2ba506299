import ScriptBridge.Builtin.Error
import ScriptBridge.Host.Output
import ScriptBridge.Types.Contract
import ScriptBridge.Value.Inspect

/-!
# Builtins

A `Builtin` is a host function under the name by which scripts call it. `Builtin.bind` accepts only
functions whose returns a script can use. `Builtin.call` checks the number and the types of the
arguments before the host function runs, then concludes one value or one error from the outputs.
-/

namespace ScriptBridge

/-- A host function under the name that scripts use. -/
structure Builtin where
  name : String
  fn : HostFn
deriving DecidableEq

namespace Builtin

/-! ## Binding -/

/-- Binds a host function whose returns can be used: at most two, the second of them an error. -/
def bind (name : String) (fn : HostFn) : Except ContractBreach Builtin :=
  match fn.signature.validate name with
  | .ok () => .ok ⟨name, fn⟩
  | .error breach => .error breach

/-- Binds the function held in a value. -/
def bindValue (name : String) (v : Value) : Except ContractBreach Builtin :=
  match v.function? with
  | some fn => bind name fn
  | none => .error (.notAFunction name v.typeName)

def signature (b : Builtin) : Signature := b.fn.signature

/-- The canonical line of the function. -/
def render (b : Builtin) : String := b.signature.render b.name

/-! ## Arguments -/

/-- The first argument that its parameter does not accept, with its place and that parameter's type.
The arguments start at the given place. -/
def refused? (s : Signature) : Nat → List Value → Option (Nat × ValueType × Value)
  | _, [] => none
  | place, v :: args =>
    match s.expected? place with
    | none => none
    | some type => if type.accepts v then refused? s (place + 1) args else some (place, type, v)

/-- Why the arguments do not fit, if they do not: first their number, then the first wrong type. -/
def argumentError? (b : Builtin) (args : List Value) : Option CallError :=
  if b.signature.admits args.length then
    (refused? b.signature 0 args).map fun (place, type, v) =>
      .argumentType b.name (some place) v.typeName [type.name] b.render
  else some (.argumentCount b.name b.render)

/-! ## Outputs -/

/-- An error of the host function, told as one of this builtin: a rejected argument, and a type
error without a name of its own, get the builtin's name. -/
def blame (b : Builtin) : HostError → CallError
  | .rejected got takes => .argumentType b.name none got takes b.render
  | .type e => .type (e.nameOnce b.name)
  | e => .host e

/-- The one result of a call: the leftmost error if one was raised, an error if the number of
outputs is wrong, and otherwise the first output's value if a value is declared there, or nil. -/
def conclude (b : Builtin) (outputs : List Output) : Except CallError Value :=
  match outputs.findSome? Output.failure? with
  | some e => .error (b.blame e)
  | none =>
    if outputs.length ≠ b.signature.returns.length then
      .error (.outputCount b.name b.signature.returns.length outputs.length)
    else
      match b.signature.returns.head?, outputs.head? with
      | some (.value _), some (.value v) => .ok v
      | _, _ => .ok .nil

/-- Checks the arguments, calls the host function once and concludes from what it produced. -/
def call {m : Type → Type} [Monad m] (hooks : Hooks m) (b : Builtin) (args : List Value) :
    m (Except CallError Value) :=
  match b.argumentError? args with
  | some e => pure (.error e)
  | none => do
    let outputs ← hooks b.fn args
    return b.conclude outputs

end Builtin

end ScriptBridge
