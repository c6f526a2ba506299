import ScriptBridge.Ieee.Binary
import ScriptBridge.Types.Signature

/-!
# Script values

A `Value` is what a script and its host exchange. Every constructor has exactly one type
(`Value.typeId`); integers of different widths are different types, and `int` is the canonical one.
Host objects and host functions are references: they carry an identity, and what is behind it stays
with the host.

* `instance?_eq_some_iff`: a value is an object of a host type when it is a reference to one.
-/

namespace ScriptBridge

/-! ## References into the host -/

/-- A host type: its identity for the host, and the type and methods that scripts see. Different
host types may show the same type. -/
structure HostClass where
  ident : Nat
  typeId : TypeId
  methods : List String
deriving DecidableEq

/-- A reference to a host object: its identity, its host type and its text in diagnostics. -/
structure HostObject where
  id : Nat
  cls : HostClass
  text : String
deriving DecidableEq

/-- A reference to a host function: the identity of what it calls and the declared signature. -/
structure HostFn where
  id : Nat
  signature : Signature
deriving DecidableEq

/-- A reference to an object of one host type. -/
structure HostClass.Instance (c : HostClass) where
  ref : HostObject
  of_class : ref.cls = c

/-! ## Values -/

/-- A dynamically typed script value. -/
inductive Value
  /-- The absent value. -/
  | nil
  | bool (b : Bool)
  /-- A canonical integer. -/
  | int (n : Int64)
  | int16 (n : Int16)
  | int32 (n : Int32)
  | int64 (n : Int64)
  | float32 (x : Ieee.Binary32)
  | float64 (x : Ieee.Binary64)
  | string (s : String)
  | bytes (b : List UInt8)
  | list (items : List Value)
  | object (o : HostObject)
  | func (f : HostFn)

instance : Inhabited Value := ⟨.nil⟩

namespace Value

/-- The exact runtime type. -/
def typeId : Value → TypeId
  | nil => .nil
  | bool _ => .bool
  | int _ => .int
  | int16 _ => .int16
  | int32 _ => .int32
  | int64 _ => .int64
  | float32 _ => .float32
  | float64 _ => .float64
  | string _ => .string
  | bytes _ => .bytes
  | list _ => .list
  | object o => o.cls.typeId
  | func _ => .func

/-- The display name of the type. -/
def typeName (v : Value) : String := v.typeId.name

/-- The methods a value offers; only host objects have any. -/
def methods : Value → List String
  | object o => o.cls.methods
  | _ => []

/-- Whether the value is absent. -/
def isNil : Value → Bool
  | nil => true
  | _ => false

/-- The function behind a function value. -/
def function? : Value → Option HostFn
  | func f => some f
  | _ => none

/-- The host object behind a value, if it is one of the given host type. -/
def instance? (c : HostClass) : Value → Option c.Instance
  | object o => if h : o.cls = c then some ⟨o, h⟩ else none
  | _ => none

@[simp] theorem isNil_iff (v : Value) : v.isNil = true ↔ v = nil := by
  cases v <;> simp [isNil]

theorem instance?_eq_some_iff {c : HostClass} {v : Value} {o : c.Instance} :
    v.instance? c = some o ↔ v = object o.ref := by
  obtain ⟨o, ho⟩ := o
  cases v with
  | object p =>
    by_cases h : p.cls = c
    · simp [instance?, h]
    · have : p ≠ o := fun e => h (e ▸ ho)
      simp [instance?, h, this]
  | _ => simp [instance?]

end Value

/-! ## Declared types -/

/-- Whether a value may be passed where the type is declared. -/
def ValueType.accepts : ValueType → Value → Bool
  | exact type, v => decide (v.typeId = type)
  | offering interface, v => interface.metBy v.methods

end ScriptBridge
