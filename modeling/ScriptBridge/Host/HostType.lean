import ScriptBridge.Host.Error
import ScriptBridge.Value.Basic

/-!
# Host types

`HostType` lists the host types that script values convert to and from; `HostType.Carrier` is the
type of their host values. `fromValue` takes a value exactly as it is: a 32-bit integer is only read
from a 32-bit integer. `toValue` is the way back, and `valueType` the type that is declared for
parameters and returns.

* `fromValue_toValue`, `toValue_of_fromValue`: the conversions undo each other.
-/

namespace ScriptBridge

/-- The host types that can be declared. -/
inductive HostType
  | bool | int | int16 | int32 | float32 | float64 | string | bytes | list | func
  /-- Any value, unconverted. -/
  | any
  /-- The objects of one host type. -/
  | object (cls : HostClass)

namespace HostType

/-- The host values of a host type. -/
@[reducible] def Carrier : HostType → Type
  | bool => Bool
  | int => Int64
  | int16 => Int16
  | int32 => Int32
  | float32 => Ieee.Binary32
  | float64 => Ieee.Binary64
  | string => String
  | bytes => List UInt8
  | list => List Value
  | func => HostFn
  | any => Value
  | object cls => cls.Instance

/-- The declared type. -/
def valueType : HostType → ValueType
  | bool => .exact .bool
  | int => .exact .int
  | int16 => .exact .int16
  | int32 => .exact .int32
  | float32 => .exact .float32
  | float64 => .exact .float64
  | string => .exact .string
  | bytes => .exact .bytes
  | list => .exact .list
  | func => .exact .func
  | any => .offering .anything
  | object cls => .exact cls.typeId

/-- The script value of a host value. -/
def toValue : (t : HostType) → t.Carrier → Value
  | bool, b => .bool b
  | int, n => .int n
  | int16, n => .int16 n
  | int32, n => .int32 n
  | float32, x => .float32 x
  | float64, x => .float64 x
  | string, s => .string s
  | bytes, b => .bytes b
  | list, items => .list items
  | func, f => .func f
  | any, v => v
  | object _, o => .object o.ref

/-- The host value of a script value of the right kind. -/
def read? (t : HostType) (v : Value) : Option t.Carrier :=
  match t with
  | bool => match v with | .bool x => some x | _ => none
  | int => match v with | .int x => some x | _ => none
  | int16 => match v with | .int16 x => some x | _ => none
  | int32 => match v with | .int32 x => some x | _ => none
  | float32 => match v with | .float32 x => some x | _ => none
  | float64 => match v with | .float64 x => some x | _ => none
  | string => match v with | .string x => some x | _ => none
  | bytes => match v with | .bytes x => some x | _ => none
  | list => match v with | .list x => some x | _ => none
  | func => match v with | .func x => some x | _ => none
  | any => some v
  | object cls => v.instance? cls

/-- Takes a script value as a host value, or says which type it should have had. -/
def fromValue (t : HostType) (v : Value) : Except ConversionError t.Carrier :=
  match t.read? v with
  | some x => .ok x
  | none => .error (.mismatch t.valueType.name v.typeName)

theorem read?_eq_some_iff {t : HostType} {v : Value} {x : t.Carrier} :
    t.read? v = some x ↔ v = t.toValue x := by
  cases t with
  | object cls => exact Value.instance?_eq_some_iff
  | any => exact Option.some_inj
  | _ => cases v <;> simp [read?, toValue]

theorem fromValue_toValue (t : HostType) (x : t.Carrier) : t.fromValue (t.toValue x) = .ok x := by
  simp [fromValue, read?_eq_some_iff.mpr rfl]

theorem toValue_of_fromValue {t : HostType} {v : Value} {x : t.Carrier}
    (h : t.fromValue v = .ok x) : t.toValue x = v := by
  unfold fromValue at h
  split at h
  · cases h
    exact (read?_eq_some_iff.mp ‹_›).symm
  · cases h

end HostType

end ScriptBridge
