import ScriptBridge.Host.HostType
import ScriptBridge.Host.Output

/-!
# Results of typed host functions

A `ResultShape` describes the result of a typed host function: nothing, a value, a result that may
be an error instead, or two results side by side, to any depth. `ResultShape.returns` declares the
returns, and `ResultShape.outputs` encodes a result as one output for each of them; an error puts
nil where the result would be that it stands for.

* `length_outputs`: there are as many outputs as declared returns.
-/

namespace ScriptBridge

/-- The shape of a result. -/
inductive ResultShape
  | unit
  | value (type : HostType)
  /-- The result, or an error in its place. -/
  | orError (result : ResultShape)
  | pair (first second : ResultShape)

namespace ResultShape

/-- The results of a shape. -/
@[reducible] def Carrier : ResultShape → Type
  | unit => Unit
  | value type => type.Carrier
  | orError result => Except HostError result.Carrier
  | pair first second => first.Carrier × second.Carrier

/-- The declared returns. -/
def returns : ResultShape → List ReturnKind
  | unit => []
  | value type => [.value type.valueType]
  | orError result => result.returns ++ [.error]
  | pair first second => first.returns ++ second.returns

/-- The outputs of a result. -/
def outputs : (r : ResultShape) → r.Carrier → List Output
  | unit, _ => []
  | value type, x => [.value (type.toValue x)]
  | orError result, .ok x => result.outputs x ++ [.error none]
  | orError result, .error e => result.returns.map (fun _ => .value .nil) ++ [.error (some e)]
  | pair first second, (x, y) => first.outputs x ++ second.outputs y

theorem length_outputs (r : ResultShape) (x : r.Carrier) :
    (r.outputs x).length = r.returns.length := by
  induction r with
  | unit => rfl
  | value type => rfl
  | orError result ih =>
    cases x with
    | ok x => simp [outputs, returns, ih]
    | error e => simp [outputs, returns]
  | pair first second ih₁ ih₂ => simp [outputs, returns, ih₁, ih₂]

end ResultShape

end ScriptBridge
