import ScriptBridge.Engine.Typed
import ScriptBridge.Proofs.BindBatch

/-!
# Failed registrations

A name is given to a variable or a builtin of an engine, or to a setting of a registry. Every such
operation makes several tests, at different points: a definition looks at the function before it
looks at the name and a redefinition after that, while a registry looks at the name before it makes
the setting. Whatever test fails, also by a breach of contract, nothing has been changed by then.

Results:
1. `allOrNothing_set` to `allOrNothing_redefineTyped`: the operations of an engine.
2. `registered_of_made`: a registration, for any way of making the setting.
3. `registration_all_or_nothing`: both together.
-/

namespace ScriptBridge

/-- An action that succeeds has its whole effect, and one that fails has none. -/
structure AllOrNothing {δ σ : Type} (act : EStateM δ σ Unit) (effect : σ → σ) : Prop where
  whole : ∀ s t, act s = .ok () t → t = effect s
  nothing : ∀ s error t, act s = .error error t → t = s

theorem allOrNothing_of_cases {δ σ : Type} {act : EStateM δ σ Unit} {effect : σ → σ}
    (outcomes : ∀ s, act s = .ok () (effect s) ∨ ∃ error, act s = .error error s) :
    AllOrNothing act effect := by
  refine ⟨fun s t done => ?_, fun s error t failed => ?_⟩
  · rcases outcomes s with same | ⟨_, other⟩
    · cases same.symm.trans done
      rfl
    · cases other.symm.trans done
  · rcases outcomes s with other | ⟨_, same⟩
    · cases other.symm.trans failed
    · cases same.symm.trans failed
      rfl

/-! ## 1. Engines -/

namespace Engine

variable {ε : Type}

theorem allOrNothing_set (name : String) (v : Value) :
    AllOrNothing (set name v) fun e : Engine ε => e.putVariable name v := by
  refine allOrNothing_of_cases fun e => ?_
  cases reserved : e.isReserved name with
  | true => exact .inr ⟨_, ((unavailable_of_isReserved reserved).2.2 v).1⟩
  | false => exact .inl (by simp [set, write, reserved, Variables.set, putVariable])

theorem allOrNothing_declare (name : String) (v : Value) :
    AllOrNothing (declare name v) fun e : Engine ε => e.putVariable name v := by
  refine allOrNothing_of_cases fun e => ?_
  cases reserved : e.isReserved name with
  | true => exact .inr ⟨_, ((unavailable_of_isReserved reserved).2.2 v).2⟩
  | false =>
    cases defined : e.vars.defines name with
    | true =>
      exact .inr ⟨.alreadyDefined name, by simp [declare, write, reserved, Variables.declare, defined]⟩
    | false =>
      exact .inl (by simp [declare, write, reserved, Variables.declare, defined, putVariable])

/-- A builtin may be installed under a name other than its own. -/
theorem allOrNothing_install (name : String) (b : Builtin) :
    AllOrNothing (install name b) fun e : Engine ε =>
      { e with builtins := e.builtins.insert name b } := by
  refine allOrNothing_of_cases fun e => ?_
  cases builtin : e.isBuiltin name with
  | true => exact .inr ⟨.isFunction name, by simp [install, builtin]⟩
  | false =>
    cases defined : e.vars.defines name with
    | true => exact .inr ⟨.alreadyDefined name, by simp [install, builtin, defined]⟩
    | false => exact .inl (install_eq_ok_iff.mpr ⟨⟨builtin, defined⟩, rfl⟩)

theorem define_all_or_error (name : String) (fn : HostFn) (e : Engine ε) :
    define name fn e = .ok () (e.putBuiltin ⟨name, fn⟩) ∨
      ∃ error, define name fn e = .error error e :=
  (define_cases name fn e).imp And.right fun ⟨error, _, failed⟩ => ⟨error, failed⟩

/-- The function is looked at when the name is known to be a builtin, and put in its place only if it
can be bound. -/
theorem redefine_all_or_error (name : String) (fn : HostFn) (e : Engine ε) :
    redefine name fn e = .ok () (e.putBuiltin ⟨name, fn⟩) ∨
      ∃ error, redefine name fn e = .error error e := by
  cases builtin : e.isBuiltin name with
  | false => exact .inr ⟨.scope (.unknownFunction name), by simp [redefine, builtin]⟩
  | true =>
    cases bound : Builtin.bind name fn with
    | error breach => exact .inr ⟨.contract breach, by simp [redefine, builtin, bound]⟩
    | ok b =>
      obtain ⟨_, rfl⟩ := Builtin.bind_eq_ok_iff.mp bound
      exact .inl (by simp [redefine, builtin, bound, putBuiltin])

theorem allOrNothing_define (name : String) (fn : HostFn) :
    AllOrNothing (define name fn) fun e : Engine ε => e.putBuiltin ⟨name, fn⟩ :=
  allOrNothing_of_cases (define_all_or_error name fn)

theorem allOrNothing_redefine (name : String) (fn : HostFn) :
    AllOrNothing (redefine name fn) fun e : Engine ε => e.putBuiltin ⟨name, fn⟩ :=
  allOrNothing_of_cases (redefine_all_or_error name fn)

/-- The engine with a function, if there is one, as a builtin. -/
def putDeclared (name : String) (declared : Except ContractBreach HostFn) (e : Engine ε) :
    Engine ε :=
  match declared with
  | .ok fn => e.putBuiltin ⟨name, fn⟩
  | .error _ => e

theorem allOrNothing_defineTyped {m : Type → Type} (name : String) (id : Nat) (f : TypedFn m) :
    AllOrNothing (defineTyped name id f) (putDeclared (ε := ε) name (f.declare id)) := by
  refine allOrNothing_of_cases fun e => ?_
  unfold defineTyped
  cases f.declare id with
  | error breach => exact .inr ⟨_, rfl⟩
  | ok fn => exact define_all_or_error name fn e

theorem allOrNothing_redefineTyped {m : Type → Type} (name : String) (id : Nat) (f : TypedFn m) :
    AllOrNothing (redefineTyped name id f) (putDeclared (ε := ε) name (f.declare id)) := by
  refine allOrNothing_of_cases fun e => ?_
  unfold redefineTyped
  cases e.isBuiltin name with
  | false => exact .inr ⟨_, rfl⟩
  | true =>
    cases f.declare id with
    | error breach => exact .inr ⟨_, rfl⟩
    | ok fn => exact redefine_all_or_error name fn e

end Engine

/-! ## 2. Registries -/

namespace Settings

/-- What becomes of a registry when a setting is registered under a name; `made` is the setting, or
why there is none. A name that is taken is an error, whatever else is wrong, and any error leaves the
registry as it is. Otherwise the registry has one setting more, which is the one that was made and
stands under its own name. -/
structure Registered (name : String) (made : Except SettingError Setting) (r : Settings)
    (outcome : EStateM.Result SettingError Settings Setting) : Prop where
  taken : ∀ other, (∃ r', outcome = .error (.alreadyExists other) r') ↔
    other = name ∧ r.contains name = true
  failed : ∀ error r', outcome = .error error r' →
    r' = r ∧ (r.contains name = false → made = .error error)
  entered : ∀ s r', outcome = .ok s r' → made = .ok s ∧ s.name = name ∧ r.contains name = false ∧
    r'.size = r.size + 1 ∧ r'.get? name = some s ∧
    ∀ other, other ≠ name → r'.get? other = r.get? other

theorem size_put {r : Settings} {name : String} (fresh : r.contains name = false) (s : Setting) :
    (r.put name s).size = r.size + 1 :=
  NameTable.size_insert fresh s

/-- A setting that is made for the name, or refused for any reason but the name, is registered. -/
theorem registered_of_made {name : String} {made : Except SettingError Setting}
    (named : ∀ s, made = .ok s → s.name = name)
    (other_reason : ∀ other, made ≠ .error (.alreadyExists other)) (r : Settings) :
    Registered name made r (register name made r) := by
  unfold register
  cases contained : r.contains name with
  | true =>
    refine ⟨fun other => ?_, ?_, ?_⟩
    · simp [contained, eq_comm]
    · rintro error r' ⟨⟩
      exact ⟨rfl, by simp [contained]⟩
    · rintro s r' ⟨⟩
  | false =>
    cases made with
    | error error =>
      refine ⟨fun other => ?_, ?_, ?_⟩
      · have different : error ≠ .alreadyExists other := fun same =>
          other_reason other (congrArg _ same)
        simp [contained, different]
      · rintro error' r' ⟨⟩
        exact ⟨rfl, fun _ => rfl⟩
      · rintro s r' ⟨⟩
    | ok s =>
      refine ⟨fun other => ?_, ?_, ?_⟩
      · simp [contained]
      · rintro error r' ⟨⟩
      · rintro s r' ⟨⟩
        refine ⟨rfl, named s rfl, contained, size_put contained s, ?_, ?_⟩
        · rw [get?_put, if_pos rfl]
        · intro other different
          rw [get?_put, if_neg (Ne.symm different)]

end Settings

namespace Setting

variable {name description : String} {default : Value} {access : Access} {error : SettingError}

/-- A setting is not made if its descriptor is malformed or the default does not pass it, which are
errors about types. -/
theorem type_of_make_error {d : Descriptor}
    (failed : make name d default access description = .error error) :
    ∃ cause, error = .type cause := by
  unfold make at failed
  split at failed
  · split at failed
    · cases failed
    · next outcome =>
      cases failed
      obtain ⟨_, _, cause, _, told⟩ := assign_eq_error_iff.mp outcome
      exact ⟨cause, told⟩
  · cases failed
    exact ⟨.badDescriptor, rfl⟩

theorem missingDefault_of_infer_error
    (failed : infer name default access description = .error error) : error = .missingDefault := by
  unfold infer at failed
  split at failed <;> cases failed
  rfl

end Setting

namespace Settings

theorem registered_add (r : Settings) (name : String) (d : Descriptor) (default : Value)
    (access : Access) (description : String) :
    Registered name (Setting.make name d default access description) r
      (add name d default access description r) := by
  refine registered_of_made (fun s made => (Setting.sound_of_make made).name_kept) ?_ r
  intro other failed
  obtain ⟨_, told⟩ := Setting.type_of_make_error failed
  cases told

theorem registered_addInferred (r : Settings) (name : String) (default : Value) (access : Access)
    (description : String) :
    Registered name (Setting.infer name default access description) r
      (addInferred name default access description r) := by
  refine registered_of_made (fun s made => (Setting.sound_of_infer made).name_kept) ?_ r
  intro other failed
  cases Setting.missingDefault_of_infer_error failed

end Settings

/-! ## 3. Engines and registries -/

/-- Variables that are set or declared, and functions that are installed, defined or redefined, with
a signature or with host types, leave an engine as it was if that fails, by an error or by a breach
of contract; if it succeeds the engine has exactly the one entry that was asked for. A setting that
is added to a registry, with a descriptor or without, is refused under a taken name with the error
that says so, whatever else is wrong with it, and never with this error under a free name; any error
leaves the registry as it was; and if it is accepted the registry has one setting more, under its own
name, which is the one that would have been made outside, and every other setting is as it was. -/
theorem registration_all_or_nothing :
    (∀ {ε : Type} (name : String),
      (∀ v, AllOrNothing (Engine.set name v) (fun e : Engine ε => e.putVariable name v) ∧
        AllOrNothing (Engine.declare name v) (fun e : Engine ε => e.putVariable name v)) ∧
      (∀ b, AllOrNothing (Engine.install name b)
        (fun e : Engine ε => { e with builtins := e.builtins.insert name b })) ∧
      (∀ fn, AllOrNothing (Engine.define name fn) (fun e : Engine ε => e.putBuiltin ⟨name, fn⟩) ∧
        AllOrNothing (Engine.redefine name fn) (fun e : Engine ε => e.putBuiltin ⟨name, fn⟩)) ∧
      ∀ {m : Type → Type} (id : Nat) (f : TypedFn m),
        AllOrNothing (Engine.defineTyped name id f)
          (Engine.putDeclared (ε := ε) name (f.declare id)) ∧
        AllOrNothing (Engine.redefineTyped name id f)
          (Engine.putDeclared (ε := ε) name (f.declare id))) ∧
    ∀ (r : Settings) (name : String) (default : Value) (access : Access) (description : String),
      (∀ d, Settings.Registered name (Setting.make name d default access description) r
        (Settings.add name d default access description r)) ∧
      Settings.Registered name (Setting.infer name default access description) r
        (Settings.addInferred name default access description r) := by
  refine ⟨fun {ε} name => ⟨fun v => ⟨?_, ?_⟩, ?_, fun fn => ⟨?_, ?_⟩, fun id f => ⟨?_, ?_⟩⟩, ?_⟩
  · exact Engine.allOrNothing_set name v
  · exact Engine.allOrNothing_declare name v
  · exact Engine.allOrNothing_install name
  · exact Engine.allOrNothing_define name fn
  · exact Engine.allOrNothing_redefine name fn
  · exact Engine.allOrNothing_defineTyped name id f
  · exact Engine.allOrNothing_redefineTyped name id f
  · intro r name default access description
    exact ⟨fun d => Settings.registered_add r name d default access description,
      Settings.registered_addInferred r name default access description⟩

/-- Answers two integers, which no script can use. -/
def divide : HostFn :=
  ⟨1, [.exact .int, .exact .int], none, [.value (.exact .int), .value (.exact .int)]⟩

/-- Takes any number of integers and a text behind them, which cannot be declared. -/
def scan : TypedFn Id := ⟨[.rest .int, .one .string], .unit, fun _ => ()⟩

theorem divide_leaves_no_trace :
    let half : HostFn := ⟨0, [.exact .int], none, [.value (.exact .int)]⟩
    let e : Engine Unit := Engine.new.putBuiltin ⟨"half", half⟩
    let r := Settings.empty.put "half" ⟨"half", "", .read, .exact .bool, .bool true⟩
    (∃ error e', Engine.redefine "half" divide e = .error error e' ∧ e' = e) ∧
    (∃ error e', Engine.defineTyped "scan" 2 scan e = .error error e' ∧ e' = e) ∧
    ∃ r', Settings.add "half" (.exact .nil) .nil .read "" r = .error (.alreadyExists "half") r' ∧
      r' = r := by
  intro half e r
  obtain ⟨engines, registries⟩ := registration_all_or_nothing
  have refused : ∃ error e', Engine.redefine "half" divide e = .error error e' := ⟨_, _, rfl⟩
  have undeclared : ∃ error e', Engine.defineTyped "scan" 2 scan e = .error error e' :=
    ⟨_, _, rfl⟩
  obtain ⟨error, e', refused⟩ := refused
  obtain ⟨breach, e'', undeclared⟩ := undeclared
  have added := (registries r "half" .nil .read "").1 (.exact .nil)
  obtain ⟨r', taken⟩ := (added.taken "half").mpr ⟨rfl, rfl⟩
  refine ⟨⟨error, e', refused, ?_⟩, ⟨breach, e'', undeclared, ?_⟩, r', taken, ?_⟩
  · exact ((engines "half").2.2.1 divide).2.nothing e error e' refused
  · exact ((engines "scan").2.2.2 2 scan).1.nothing e breach e'' undeclared
  · exact (added.failed _ r' taken).1

end ScriptBridge
