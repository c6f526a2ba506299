import ScriptBridge.Value.Basic

/-!
# Equality of values

`Value.same` compares what a script can tell apart: scalars by content, floating point numbers as
numbers, lists item by item, host objects and host functions by identity. Values of different kinds
are never the same.
-/

namespace ScriptBridge

/-- Whether two references are to one object. -/
def HostObject.same (a b : HostObject) : Bool := decide (a.id = b.id)

/-- Whether two references are to one function. -/
def HostFn.same (f g : HostFn) : Bool := decide (f.id = g.id)

mutual

/-- Whether two values are equal for a script. -/
def Value.same : Value → Value → Bool
  | .nil, .nil => true
  | .bool a, .bool b => decide (a = b)
  | .int a, .int b => decide (a = b)
  | .int16 a, .int16 b => decide (a = b)
  | .int32 a, .int32 b => decide (a = b)
  | .int64 a, .int64 b => decide (a = b)
  | .float32 a, .float32 b => a.equal b
  | .float64 a, .float64 b => a.equal b
  | .string a, .string b => decide (a = b)
  | .bytes a, .bytes b => decide (a = b)
  | .list a, .list b => Value.sameItems a b
  | .object a, .object b => a.same b
  | .func a, .func b => a.same b
  | _, _ => false

/-- Whether two lists have equal items at equal places. -/
def Value.sameItems : List Value → List Value → Bool
  | [], [] => true
  | a :: as, b :: bs => Value.same a b && Value.sameItems as bs
  | _, _ => false

end

end ScriptBridge
