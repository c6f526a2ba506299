import ScriptBridge.NameTable
import ScriptBridge.Setting.Basic

/-!
# Registries of settings

A `Settings` holds settings under their names. The batch operations visit them in ascending order of
names and stop at the first error; what they did before stays done. While a registry pulls from a
scope, every failure is given to a handler, which decides whether the batch goes on.
-/

namespace ScriptBridge

/-- Settings by name. -/
structure Settings where
  table : NameTable Setting

namespace Settings

def empty : Settings := ⟨.empty⟩

def get? (r : Settings) (name : String) : Option Setting := r.table.get? name

def contains (r : Settings) (name : String) : Bool := r.table.contains name

def size (r : Settings) : Nat := r.table.size

def isEmpty (r : Settings) : Bool := r.table.isEmpty

/-- The registered names in ascending order. -/
def names (r : Settings) : List String := r.table.names

/-- The settings in ascending order of their own names, each with the name it is registered
under. -/
def byName (r : Settings) : List (String × Setting) :=
  sortBy (fun (_, s) => s.name) r.table.entries

/-- The settings in ascending order of their own names. -/
def settings (r : Settings) : List Setting := r.byName.map Prod.snd

/-! ## Changing the registry -/

/-- Stores a setting under a name. -/
def put (r : Settings) (name : String) (s : Setting) : Settings := ⟨r.table.insert name s⟩

/-- Registers a newly made setting under a name that is not taken. -/
def register (name : String) (made : Except SettingError Setting) :
    EStateM SettingError Settings Setting := fun r =>
  if r.contains name then .error (.alreadyExists name) r
  else
    match made with
    | .ok s => .ok s (r.put name s)
    | .error e => .error e r

/-- Registers a setting with a type descriptor. -/
def add (name : String) (descriptor : Descriptor) (default : Value) (access : Access)
    (description : String) : EStateM SettingError Settings Setting :=
  register name (Setting.make name descriptor default access description)

/-- Registers a setting that requires the exact type of its default. -/
def addInferred (name : String) (default : Value) (access : Access) (description : String) :
    EStateM SettingError Settings Setting :=
  register name (Setting.infer name default access description)

/-! ## Pulling from a scope -/

/-- What to do about a setting that failed to pull, with notes of type `η`: an answer lets the batch
go on, an error ends it. -/
abbrev Handler (η : Type) := Setting → SettingError → EStateM SettingError η Unit

namespace Handler

/-- Ends the batch with the first error. -/
def abort {η : Type} : Handler η := fun _ e notes => .error e notes

/-- Goes on as if nothing had happened. -/
def skip {η : Type} : Handler η := fun _ _ notes => .ok () notes

/-- Notes every error and goes on. -/
def record : Handler (List SettingError) := fun _ e notes => .ok () (notes ++ [e])

end Handler

variable {σ : Type} [Scope σ] {η : Type}

/-- Pulls some settings one after the other, each registered under the name beside it. -/
def pullEach (scope : σ) (handler : Handler η) :
    List (String × Setting) → EStateM SettingError (Settings × η) Unit
  | [] => fun state => .ok () state
  | (name, s) :: rest => fun (r, notes) =>
    match s.pull scope with
    | .ok () s => pullEach scope handler rest (r.put name s, notes)
    | .error e s =>
      match handler s e notes with
      | .ok () notes => pullEach scope handler rest (r.put name s, notes)
      | .error e notes => .error e (r.put name s, notes)

/-- Pulls every setting; each failure is given to the handler. -/
def pull (scope : σ) (handler : Handler η) : EStateM SettingError (Settings × η) Unit :=
  fun (r, notes) => pullEach scope handler r.byName (r, notes)

/-! ## Supplying a scope -/

/-- Supplies every setting; a name that has a value keeps it. -/
def supply (r : Settings) : EStateM SettingError σ Unit := r.settings.forM Setting.supply

/-- Supplies every setting, and clears the names of those that may not write. -/
def supplyOrClear (r : Settings) : EStateM SettingError σ Unit :=
  r.settings.forM Setting.supplyOrClear

/-- Puts every setting into the scope, whatever the names have there. -/
def impose (r : Settings) : EStateM SettingError σ Unit := r.settings.forM Setting.impose

end Settings

end ScriptBridge
