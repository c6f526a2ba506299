import ScriptBridge.Builtin.Basic
import ScriptBridge.NameTable
import ScriptBridge.Scope.Basic

/-!
# Catalogues

A `Catalogue` collects host functions by name. Plain values may stand in it for documentation, and a
nil entry switches a name off. `Catalogue.bindAll` installs the entries in a `BuiltinScope`, in
ascending order of names, and stops at the first entry that is not accepted.
-/

namespace ScriptBridge

/-! ## Scopes with builtins -/

/-- Why a builtin is not registered: the scope refuses the name, or the function cannot be bound. -/
inductive RegistrationError
  | scope (error : ScopeError)
  | contract (breach : ContractBreach)
deriving DecidableEq

/-- The text of the error. -/
def RegistrationError.message : RegistrationError → String
  | scope error => error.message
  | contract breach => breach.message

/-- A scope that also holds builtins. -/
class BuiltinScope (σ : Type) extends Scope σ where
  /-- Registers a builtin under a name. -/
  install : String → Builtin → EStateM ScopeError σ Unit

/-! ## Catalogues -/

/-- Host functions, and plain values, by name. -/
structure Catalogue where
  table : NameTable Value

namespace Catalogue

def empty : Catalogue := ⟨.empty⟩

/-- The catalogue of some functions; of two with one name the later stays. -/
def ofFunctions (functions : List (String × HostFn)) : Catalogue :=
  ⟨.ofList (functions.map fun (name, fn) => (name, .func fn))⟩

def get? (c : Catalogue) (name : String) : Option Value := c.table.get? name

/-- Adds or replaces an entry; answers the value that was replaced. -/
def insert (c : Catalogue) (name : String) (v : Value) : Option Value × Catalogue :=
  (c.get? name, ⟨c.table.insert name v⟩)

/-- Removes an entry; answers the value it had. -/
def remove (c : Catalogue) (name : String) : Option Value × Catalogue :=
  (c.get? name, ⟨c.table.erase name⟩)

def size (c : Catalogue) : Nat := c.table.size

def isEmpty (c : Catalogue) : Bool := c.table.isEmpty

/-- The first catalogue overwritten by every entry of the second. -/
def overwrite (c other : Catalogue) : Catalogue := ⟨c.table.overwrite other.table⟩

/-- The entry names in ascending order. -/
def names (c : Catalogue) : List String := c.table.names

/-- The canonical line of every entry, in ascending order of names. -/
def lines (c : Catalogue) : List String := c.table.sorted.map fun (name, v) => v.describe name

/-! ## Installing the entries -/

/-- Installs one entry: nothing for nil, otherwise the function in it. -/
def bindEntry {σ : Type} [BuiltinScope σ] (name : String) (v : Value) :
    EStateM RegistrationError σ Unit := fun s =>
  if v.isNil then .ok () s
  else
    match Builtin.bindValue name v with
    | .error breach => .error (.contract breach) s
    | .ok b => (BuiltinScope.install name b).adaptExcept RegistrationError.scope s

/-- Installs every entry but the nil ones. What was installed before the first failure stays. -/
def bindAll {σ : Type} [BuiltinScope σ] (c : Catalogue) : EStateM RegistrationError σ Unit :=
  c.table.sorted.forM fun (name, v) => bindEntry name v

end Catalogue

end ScriptBridge
