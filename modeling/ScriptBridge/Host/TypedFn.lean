import ScriptBridge.Host.Param
import ScriptBridge.Host.Result

/-!
# Typed host functions

A `TypedFn` is a host function over host types. Its signature is derived from the types of its
parameters and of its result, so it cannot drift from what it takes and answers. Its hook converts
the arguments, runs the function and encodes the result; when an argument does not convert the
function does not run, and the outputs report the conversion error in the last place.
-/

namespace ScriptBridge

/-- A host function over host types, with the effects of `m`. -/
structure TypedFn (m : Type → Type) where
  params : List Param
  result : ResultShape
  body : Args params → m result.Carrier

/-- The outputs that report an argument that did not convert: nil for every declared return but the
last, and the error in its place. -/
def refusal (returns : List ReturnKind) (e : ConversionError) : List Output :=
  returns.dropLast.map (fun _ => .value .nil) ++ [.error (some (.conversion e))]

namespace TypedFn

variable {m : Type → Type}

/-- The signature that the types declare. -/
def signature (f : TypedFn m) : Except ContractBreach Signature :=
  Signature.ofForms (f.params.map Param.form) f.result.returns

/-- The untyped function: arguments in, outputs out. -/
def hook [Monad m] (f : TypedFn m) (args : List Value) : m (List Output) :=
  match takeArgs f.params 0 args with
  | .error e => pure (refusal f.result.returns e)
  | .ok xs => do
    let result ← f.body xs
    return f.result.outputs result

end TypedFn

end ScriptBridge
