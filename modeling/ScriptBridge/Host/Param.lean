import ScriptBridge.Host.HostType
import ScriptBridge.Types.Contract
import ScriptBridge.Value.Inspect

/-!
# Parameters of typed host functions

A parameter of a typed host function is a host type, an interface, or the rest of the arguments at
one host type. `takeArgs` draws the arguments of a parameter list from a list of values, from left
to right, and stops at the first one that is missing or does not convert. Arguments that no
parameter takes are left alone.
-/

namespace ScriptBridge

/-- A value that meets an interface. -/
structure Interface.Instance (i : Interface) where
  value : Value
  meets : i.metBy value.methods = true

namespace Interface

/-- Takes a value that offers every method of the interface. -/
def meet (i : Interface) (v : Value) : Except ConversionError i.Instance :=
  if h : i.metBy v.methods = true then .ok ⟨v, h⟩ else .error (.mismatch i.name v.typeName)

/-- The value as it appears in diagnostics, marked as held by an interface. -/
def Instance.inspect {i : Interface} (x : i.Instance) : String := "Iface(" ++ x.value.inspect ++ ")"

end Interface

/-- A parameter of a typed host function. -/
inductive Param
  /-- One argument of a host type. -/
  | one (type : HostType)
  /-- One argument that meets an interface. -/
  | meeting (interface : Interface)
  /-- Every remaining argument, each of one host type. -/
  | rest (element : HostType)

namespace Param

/-- What the host function receives for the parameter. -/
@[reducible] def Carrier : Param → Type
  | one type => type.Carrier
  | meeting interface => interface.Instance
  | rest element => List element.Carrier

/-- How the parameter consumes arguments. -/
def form : Param → ParamForm
  | one type => .single type.valueType
  | meeting interface => .single (.offering interface)
  | rest element => .rest element.valueType

/-- Converts a list of values, up to the first that does not convert. -/
def convertAll (element : HostType) : List Value → Except ConversionError (List element.Carrier)
  | [] => .ok []
  | v :: values =>
    match element.fromValue v with
    | .error e => .error e
    | .ok x =>
      match convertAll element values with
      | .error e => .error e
      | .ok xs => .ok (x :: xs)

/-- Draws the parameter at position `index` from the remaining arguments, and answers what it leaves
of them. -/
def take : (p : Param) → Nat → List Value → Except ConversionError (p.Carrier × List Value)
  | one _, index, [] => .error (.missing index)
  | one type, _, v :: values => (type.fromValue v).map fun x => (x, values)
  | meeting _, index, [] => .error (.missing index)
  | meeting interface, _, v :: values => (interface.meet v).map fun x => (x, values)
  | rest element, _, values => (convertAll element values).map fun xs => (xs, [])

end Param

/-- One host value per parameter. -/
@[reducible] def Args : List Param → Type
  | [] => Unit
  | p :: params => p.Carrier × Args params

/-- Draws the arguments of all parameters; `index` is the position of the first of them. -/
def takeArgs : (params : List Param) → Nat → List Value → Except ConversionError (Args params)
  | [], _, _ => .ok ()
  | p :: params, index, values =>
    match p.take index values with
    | .error e => .error e
    | .ok (x, left) =>
      match takeArgs params (index + 1) left with
      | .error e => .error e
      | .ok xs => .ok (x, xs)

end ScriptBridge
