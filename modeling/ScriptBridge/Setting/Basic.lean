import ScriptBridge.Check.Descriptor
import ScriptBridge.Host.HostType
import ScriptBridge.Setting.Access
import ScriptBridge.Setting.Error

/-!
# Settings

A `Setting` is a named configuration value with a type descriptor and an access. Its value is nil or
has passed the descriptor: `Setting.assign` is the only way to store one. A setting takes its value
from a scope (`pull`) and puts it there (`supply`, `supplyOrClear`, `impose`), as far as its access
allows.
-/

namespace ScriptBridge

/-- A named, typed value that is synchronized with a scope. -/
structure Setting where
  name : String
  description : String
  access : Access
  descriptor : Descriptor
  value : Value

namespace Setting

/-! ## The value -/

/-- Stores a value. Nil clears the setting; anything else has to pass the descriptor, which may
change it. -/
def assign (v : Value) : EStateM SettingError Setting Unit := fun s =>
  if v.isNil then .ok () { s with value := .nil }
  else
    match s.descriptor.check s.name v with
    | .ok w => .ok () { s with value := w }
    | .error e => .error (.type e) s

/-- Replaces the access. -/
def withAccess (s : Setting) (access : Access) : Setting := { s with access := access }

/-- A setting with a type descriptor; the default is stored as any other value is. -/
def make (name : String) (descriptor : Descriptor) (default : Value) (access : Access)
    (description : String) : Except SettingError Setting :=
  if descriptor.isValid then
    match assign default ⟨name, description, access, descriptor, .nil⟩ with
    | .ok () s => .ok s
    | .error e _ => .error e
  else .error (.type .badDescriptor)

/-- A setting that requires the exact type of its default. -/
def infer (name : String) (default : Value) (access : Access) (description : String) :
    Except SettingError Setting :=
  if default.isNil then .error .missingDefault
  else .ok ⟨name, description, access, .exact default.typeId, default⟩

def typeName (s : Setting) : String := s.descriptor.name

/-- Whether the setting holds no value. -/
def isEmpty (s : Setting) : Bool := s.value.isNil

/-- The value, or a fallback for an empty setting. -/
def valueOr (s : Setting) (fallback : Value) : Value := if s.isEmpty then fallback else s.value

/-- The value as a host value; nothing for an empty setting. -/
def valueAs (s : Setting) (t : HostType) : Except SettingError (Option t.Carrier) :=
  if s.isEmpty then .ok none
  else
    match t.fromValue s.value with
    | .ok x => .ok (some x)
    | .error e => .error (.conversion e)

/-! ## Synchronization -/

variable {σ : Type} [Scope σ]

/-- Takes the value that the scope has under the setting's name into a setting that reads. Without
such a value the setting stays as it is, which is an error for a required one. -/
def pull (scope : σ) : EStateM SettingError Setting Unit := fun s =>
  if !s.access.canRead then .ok () s
  else if Scope.has scope s.name then
    match Scope.get scope s.name with
    | .ok v => assign v s
    | .error e => .error (.scope e) s
  else if s.access.isRequired then .error (.required s.name) s
  else .ok () s

/-- Sets the variable of the setting's name. -/
def store (s : Setting) (v : Value) : EStateM SettingError σ Unit :=
  (Scope.set s.name v).adaptExcept SettingError.scope

/-- Puts the value of a setting that writes into the scope, unless the name has a value there. -/
def supply (s : Setting) : EStateM SettingError σ Unit := fun scope =>
  if s.access.canWrite && !Scope.has scope s.name then s.store s.value scope
  else .ok () scope

/-- As `supply`, and nil is put into the scope for a setting that may not write. A reserved setting
is never touched, and neither is a required one that may not write, since the script has to provide
its value. -/
def supplyOrClear (s : Setting) : EStateM SettingError σ Unit := fun scope =>
  if s.access.isReserved then .ok () scope
  else if s.access.canWrite then s.supply scope
  else if s.access.isRequired then .ok () scope
  else s.store .nil scope

/-- Puts the value of a setting that writes into the scope, whatever the name has there. -/
def impose (s : Setting) : EStateM SettingError σ Unit := fun scope =>
  if s.access.canWrite then s.store s.value scope else .ok () scope

end Setting

end ScriptBridge
