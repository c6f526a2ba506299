import ScriptBridge.NameTable
import ScriptBridge.Scope.Basic
import ScriptBridge.Value.Inspect

/-!
# Variables

`Variables` is the scope in which every name can be defined. A variable may hold nil: it is defined
then, but `has` does not count it.
-/

namespace ScriptBridge

/-- Variables and their values. -/
structure Variables where
  table : NameTable Value

namespace Variables

/-- No variable is defined. -/
def empty : Variables := ⟨.empty⟩

/-- Whether a name is defined at all, as nil included. -/
def defines (vars : Variables) (name : String) : Bool := vars.table.contains name

def size (vars : Variables) : Nat := vars.table.size

def isEmpty (vars : Variables) : Bool := vars.table.isEmpty

/-- The defined names in ascending order. -/
def names (vars : Variables) : List String := vars.table.names

/-- Whether a name has a value other than nil. -/
def has (vars : Variables) (name : String) : Bool :=
  match vars.table.get? name with
  | some v => !v.isNil
  | none => false

/-- Reads a variable. -/
def get (vars : Variables) (name : String) : Except ScopeError Value :=
  match vars.table.get? name with
  | some v => .ok v
  | none => .error (.undefined name)

/-- Defines a variable, or replaces its value. -/
def insert (vars : Variables) (name : String) (v : Value) : Variables := ⟨vars.table.insert name v⟩

/-- Removes a variable; answers the value it had. -/
def remove (vars : Variables) (name : String) : Option Value × Variables :=
  (vars.table.get? name, ⟨vars.table.erase name⟩)

/-- The write of `insert`, which never fails. -/
def set (name : String) (v : Value) : EStateM ScopeError Variables Unit := fun vars =>
  .ok () (vars.insert name v)

/-- Defines a variable that is not defined yet, not even as nil. -/
def declare (name : String) (v : Value) : EStateM ScopeError Variables Unit := fun vars =>
  if vars.defines name then .error (.alreadyDefined name) vars else .ok () (vars.insert name v)

instance : Scope Variables := ⟨has, get, set, declare⟩

/-- The variables as they appear in diagnostics, in ascending order of names. -/
def inspect (vars : Variables) : String :=
  let entries := vars.table.sorted.map fun (name, v) => Text.quoted name ++ ": " ++ v.inspect
  "Bindings \x7b vars: \x7b" ++ String.intercalate ", " entries ++ "\x7d \x7d"

end Variables

end ScriptBridge
