import ScriptBridge.Builtin.Catalogue
import ScriptBridge.Engine.Error
import ScriptBridge.Scope.Variables
import ScriptBridge.Script.SourceMap

/-!
# The engine

An `Engine` keeps script variables and builtins in two tables that share one namespace, and the
evaluator and preprocessor with which scripts are run. Variables are read and written through
`Scope`; a name that is taken by a builtin, or reserved for one, is neither readable nor writable as
a variable. Builtins are only reachable through `Engine.call`.

Evaluators are known to the engine by references of type `ε`; what they do is given to the
operations that run scripts.
-/

namespace ScriptBridge

/-- Turns the source of a named script into the text that is evaluated. -/
structure Preprocessor where
  process : (name code : String) → Except ScriptError Preprocessed

/-- Variables, builtins, and the means to run scripts. -/
structure Engine (ε : Type) where
  vars : Variables
  builtins : NameTable Builtin
  /-- Names kept for builtins whether or not there is one. -/
  reserved : List String
  evaluator : Option ε
  preprocessor : Option Preprocessor

namespace Engine

variable {ε : Type}

/-- The engine with nothing defined and nothing installed. -/
def new : Engine ε := ⟨.empty, .empty, [], none, none⟩

/-! ## Names -/

/-- Whether a name is a builtin. -/
def isBuiltin (e : Engine ε) (name : String) : Bool := e.builtins.contains name

/-- Whether a name is unavailable as a variable. -/
def isReserved (e : Engine ε) (name : String) : Bool :=
  e.isBuiltin name || e.reserved.contains name

def builtin? (e : Engine ε) (name : String) : Option Builtin := e.builtins.get? name

/-- The names of the builtins in ascending order. -/
def builtinNames (e : Engine ε) : List String := e.builtins.names

/-- The names of the variables in ascending order. -/
def variableNames (e : Engine ε) : List String := e.vars.names

/-! ## Variables -/

/-- Whether a name is a variable with a value other than nil. -/
def has (e : Engine ε) (name : String) : Bool := !e.isReserved name && e.vars.has name

/-- Reads a variable. -/
def get (e : Engine ε) (name : String) : Except ScopeError Value :=
  if e.isReserved name then .error (.notReadable name) else e.vars.get name

/-- Lets the variables take a write, unless the name is reserved. -/
def write (name : String) (act : EStateM ScopeError Variables Unit) :
    EStateM ScopeError (Engine ε) Unit := fun e =>
  if e.isReserved name then .error (.isFunction name) e
  else
    match act e.vars with
    | .ok () vars => .ok () { e with vars := vars }
    | .error error vars => .error error { e with vars := vars }

/-- Defines a variable, or replaces its value. -/
def set (name : String) (v : Value) : EStateM ScopeError (Engine ε) Unit :=
  write name (Variables.set name v)

/-- Defines a variable that is not defined yet. -/
def declare (name : String) (v : Value) : EStateM ScopeError (Engine ε) Unit :=
  write name (Variables.declare name v)

/-! ## Builtins -/

/-- Registers a builtin under a name that is neither a builtin nor a variable. -/
def install (name : String) (b : Builtin) : EStateM ScopeError (Engine ε) Unit := fun e =>
  if e.isBuiltin name then .error (.isFunction name) e
  else if e.vars.defines name then .error (.alreadyDefined name) e
  else .ok () { e with builtins := e.builtins.insert name b }

instance : Scope (Engine ε) := ⟨has, get, set, declare⟩

instance : BuiltinScope (Engine ε) := ⟨install⟩

/-- Binds a host function under a name that is not taken. -/
def define (name : String) (fn : HostFn) : EStateM RegistrationError (Engine ε) Unit := fun e =>
  match Builtin.bind name fn with
  | .error breach => .error (.contract breach) e
  | .ok b => (install name b).adaptExcept RegistrationError.scope e

/-- Binds another host function under the name of a builtin. -/
def redefine (name : String) (fn : HostFn) : EStateM RegistrationError (Engine ε) Unit := fun e =>
  if e.isBuiltin name then
    match Builtin.bind name fn with
    | .error breach => .error (.contract breach) e
    | .ok b => .ok () { e with builtins := e.builtins.insert name b }
  else .error (.scope (.unknownFunction name)) e

/-- Calls a builtin. -/
def call {m : Type → Type} [Monad m] (hooks : Hooks m) (e : Engine ε) (name : String)
    (args : List Value) : m (Except EngineError Value) :=
  match e.builtin? name with
  | none => pure (.error (.scope (.unknownFunction name)))
  | some b => do
    let result ← b.call hooks args
    return result.mapError EngineError.call

/-! ## Loading -/

/-- A new engine with the builtins of a loader. The loader sees the engine before they are
installed; every name of the catalogue that it answers is reserved for builtins, nil entries
included. -/
def load (loader : Engine ε → Engine ε × Catalogue) : Except RegistrationError (Engine ε) :=
  let (e, catalogue) := loader new
  match catalogue.bindAll e with
  | .ok () e => .ok { e with reserved := catalogue.names ++ e.reserved }
  | .error error _ => .error error

/-! ## Diagnostics -/

/-- The engine as it appears in diagnostics. -/
def inspect (e : Engine ε) : String :=
  let flag (b : Bool) : String := if b then "true" else "false"
  "Executer \x7b vars: " ++ e.vars.inspect
    ++ ", funcs: " ++ Text.bracketed (e.builtinNames.map Text.quoted)
    ++ ", evaluator: " ++ flag e.evaluator.isSome
    ++ ", preprocessor: " ++ flag e.preprocessor.isSome ++ " \x7d"

end Engine

end ScriptBridge
