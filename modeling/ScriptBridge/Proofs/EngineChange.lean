import ScriptBridge.Engine.Run
import ScriptBridge.Proofs.Outcome
import ScriptBridge.Setting.Registry

/-!
# Changes of an engine

Variables are set and declared, builtins are defined, redefined and bound from catalogues, settings
write their values. All of this comes down to four changes of an engine (`Engine.Change`), and what
one of them keeps is kept by every operation.

Results:
1. `validate_eq_ok_iff`, `bind_eq_ok_iff`: which functions can be bound, and what they are bound as.
2. `changes_set`, `changes_define`, `changes_bindAll`, …: an operation takes some changes, also when
   it fails, and so does loading.
3. `run_of_missing`, `run_of_plain`, `run_of_rejected`, `run_of_processed`: the four ways of a run;
   `run_cases`: a run does to the engine what the evaluator does to it.
-/

namespace ScriptBridge

open Relation

/-! ## 1. Functions that can be bound -/

/-- There are at most two returns, and the second is the error if there is one. -/
structure Signature.Bindable (s : Signature) : Prop where
  at_most_two : s.returns.length ≤ 2
  second_error : ∀ kind, s.returns[1]? = some kind → kind = .error

theorem Signature.validate_eq_ok_iff {name : String} {s : Signature} :
    s.validate name = .ok () ↔ s.Bindable := by
  constructor
  · intro valid
    unfold validate at valid
    split at valid
    · next returns => exact ⟨by simp [returns], by simp [returns]⟩
    · next returns => exact ⟨by simp [returns], by simp [returns]⟩
    · next returns => exact ⟨by simp [returns], by simp [returns]⟩
    · cases valid
    · cases valid
  · rintro ⟨count, second⟩
    unfold validate
    match returns : s.returns with
    | [] => rfl
    | [_] => rfl
    | [_, .error] => rfl
    | [_, .value type] =>
      rw [returns] at second
      cases second (.value type) rfl
    | _ :: _ :: _ :: _ =>
      rw [returns] at count
      simp at count

theorem Builtin.bind_eq_ok_iff {name : String} {fn : HostFn} {b : Builtin} :
    Builtin.bind name fn = .ok b ↔ fn.signature.Bindable ∧ b = ⟨name, fn⟩ := by
  rw [← @Signature.validate_eq_ok_iff name]
  unfold Builtin.bind
  cases fn.signature.validate name with
  | ok u => simp [eq_comm]
  | error breach => simp

/-- What is bound has the name that it is bound under. -/
theorem Builtin.bindable_of_bind {name : String} {fn : HostFn} {b : Builtin}
    (bound : Builtin.bind name fn = .ok b) : b.name = name ∧ b.signature.Bindable := by
  obtain ⟨bindable, rfl⟩ := Builtin.bind_eq_ok_iff.mp bound
  exact ⟨rfl, bindable⟩

namespace Engine

variable {ε : Type}

/-! ## 2. What the operations change -/

/-- The engine with a variable written, whatever has the name. -/
def putVariable (e : Engine ε) (name : String) (v : Value) : Engine ε :=
  { e with vars := e.vars.insert name v }

/-- The engine with a builtin under its own name, whatever has the name. -/
def putBuiltin (e : Engine ε) (b : Builtin) : Engine ε :=
  { e with builtins := e.builtins.insert b.name b }

theorem defines_putVariable (e : Engine ε) (name other : String) (v : Value) :
    (e.putVariable name v).vars.defines other = (decide (name = other) || e.vars.defines other) :=
  NameTable.contains_insert _ _ _ _

theorem isBuiltin_putBuiltin (e : Engine ε) (b : Builtin) (name : String) :
    (e.putBuiltin b).isBuiltin name = (decide (b.name = name) || e.isBuiltin name) :=
  NameTable.contains_insert _ _ _ _

theorem builtin?_putBuiltin (e : Engine ε) (b : Builtin) (name : String) :
    (e.putBuiltin b).builtin? name = if b.name = name then some b else e.builtin? name :=
  NameTable.get?_insert _ _ _ _

/-- One change of an engine. A variable is only written under a name that is not reserved, and a
builtin that can be bound only takes the place of a builtin or a name that no variable has. -/
inductive Change : Engine ε → Engine ε → Prop
  | equip {e : Engine ε} (evaluator : Option ε) (preprocessor : Option Preprocessor) :
      Change e { e with evaluator := evaluator, preprocessor := preprocessor }
  | write {e : Engine ε} {name : String} (v : Value) :
      e.isReserved name = false → Change e (e.putVariable name v)
  | bind {e : Engine ε} {b : Builtin} :
      b.signature.Bindable → e.isBuiltin b.name = true ∨ e.vars.defines b.name = false →
      Change e (e.putBuiltin b)
  | reserve {e : Engine ε} (names : List String) :
      Change e { e with reserved := names ++ e.reserved }

/-- Any number of changes, one after the other. -/
abbrev Changes : Engine ε → Engine ε → Prop := ReflTransGen Change

/-- A write changes the variables as it would without an engine, unless the name is reserved. -/
theorem changes_write {name : String} {v : Value} {act : EStateM ScopeError Variables Unit}
    (inserts : ∀ vars, leaves act vars = vars ∨ leaves act vars = vars.insert name v)
    (e : Engine ε) : Changes e (leaves (write name act) e) := by
  cases reserved : e.isReserved name with
  | true =>
    have refused : write name act e = .error (.isFunction name) e := by simp [write, reserved]
    rw [leaves_of_error refused]
  | false =>
    have written : leaves (write name act) e = { e with vars := leaves act e.vars } := by
      unfold leaves write
      rw [reserved]
      cases act e.vars <;> rfl
    rw [written]
    rcases inserts e.vars with same | inserted
    · rw [same]
    · rw [inserted]
      exact .single (.write v reserved)

theorem changes_set (name : String) (v : Value) (e : Engine ε) :
    Changes e (leaves (set name v) e) :=
  changes_write (fun _ => .inr rfl) e

theorem changes_declare (name : String) (v : Value) (e : Engine ε) :
    Changes e (leaves (declare name v) e) := by
  refine changes_write (v := v) (fun vars => ?_) e
  unfold leaves Variables.declare
  cases vars.defines name
  · exact .inr rfl
  · exact .inl rfl

theorem install_eq_ok_iff {name : String} {b : Builtin} {e e' : Engine ε} :
    install name b e = .ok () e' ↔ (e.isBuiltin name = false ∧ e.vars.defines name = false) ∧
      e' = { e with builtins := e.builtins.insert name b } := by
  unfold install
  cases e.isBuiltin name <;> cases e.vars.defines name <;> simp [eq_comm]

theorem changes_install {b : Builtin} (bindable : b.signature.Bindable) (e : Engine ε) :
    Changes e (leaves (install b.name b) e) := by
  unfold leaves install
  cases builtin : e.isBuiltin b.name with
  | true => exact .refl
  | false =>
    cases defined : e.vars.defines b.name with
    | true => exact .refl
    | false => exact .single (.bind bindable (.inr defined))

/-- Only a function that can be bound is installed. -/
theorem leaves_define (name : String) (fn : HostFn) (e : Engine ε) :
    leaves (define name fn) e =
      match Builtin.bind name fn with
      | .error _ => e
      | .ok b => leaves (install name b) e := by
  cases bound : Builtin.bind name fn with
  | error breach =>
    have failed : define name fn e = .error (.contract breach) e := by simp [define, bound]
    exact leaves_of_error failed
  | ok b =>
    have installed : define name fn e =
        (install name b).adaptExcept RegistrationError.scope e := by
      simp [define, bound]
    rw [leaves, installed]
    exact leaves_adaptExcept RegistrationError.scope (install name b) e

theorem changes_define (name : String) (fn : HostFn) (e : Engine ε) :
    Changes e (leaves (define name fn) e) := by
  rw [leaves_define]
  cases bound : Builtin.bind name fn with
  | error breach => exact .refl
  | ok b =>
    obtain ⟨rfl, bindable⟩ := Builtin.bindable_of_bind bound
    exact changes_install bindable e

theorem changes_redefine (name : String) (fn : HostFn) (e : Engine ε) :
    Changes e (leaves (redefine name fn) e) := by
  unfold leaves redefine
  cases builtin : e.isBuiltin name with
  | false => exact .refl
  | true =>
    cases bound : Builtin.bind name fn with
    | error breach => exact .refl
    | ok b =>
      obtain ⟨rfl, bindable⟩ := Builtin.bindable_of_bind bound
      exact .single (.bind bindable (.inl builtin))

/-- An entry with a function is a definition, and any other entry changes nothing. -/
theorem changes_bindEntry (name : String) (v : Value) (e : Engine ε) :
    Changes e (leaves (Catalogue.bindEntry name v) e) := by
  cases v with
  | func fn => exact changes_define name fn e
  | _ => exact .refl

theorem changes_bindAll (c : Catalogue) (e : Engine ε) : Changes e (leaves c.bindAll e) :=
  steps_forM (fun (name, v) e => changes_bindEntry name v e) c.table.sorted e

/-! ### Settings that write -/

theorem changes_store (s : Setting) (v : Value) (e : Engine ε) :
    Changes e (leaves (s.store v) e) := by
  unfold Setting.store
  rw [leaves_adaptExcept]
  exact changes_set s.name v e

theorem changes_supply (s : Setting) (e : Engine ε) : Changes e (leaves s.supply e) := by
  unfold leaves Setting.supply
  cases s.access.canWrite && !Scope.has e s.name with
  | true => exact changes_store s s.value e
  | false => exact .refl

theorem changes_supplyOrClear (s : Setting) (e : Engine ε) :
    Changes e (leaves s.supplyOrClear e) := by
  unfold leaves Setting.supplyOrClear
  cases s.access.isReserved with
  | true => exact .refl
  | false =>
    cases s.access.canWrite with
    | true => exact changes_supply s e
    | false =>
      cases s.access.isRequired with
      | true => exact .refl
      | false => exact changes_store s .nil e

theorem changes_impose (s : Setting) (e : Engine ε) : Changes e (leaves s.impose e) := by
  unfold leaves Setting.impose
  cases s.access.canWrite with
  | true => exact changes_store s s.value e
  | false => exact .refl

/-! ### Loading -/

/-- Loading succeeds if the catalogue that the loader answers is bound on the engine that it leaves,
and reserves the names of the catalogue then. -/
theorem load_eq_ok_iff {loader : Engine ε → Engine ε × Catalogue} {e : Engine ε} :
    load loader = .ok e ↔ ∃ f, (loader new).2.bindAll (loader new).1 = .ok () f ∧
      e = { f with reserved := (loader new).2.names ++ f.reserved } := by
  cases bound : (loader new).2.bindAll (loader new).1 with
  | ok u f => simp [load, bound, eq_comm]
  | error error f => simp [load, bound]

theorem changes_load {loader : Engine ε → Engine ε × Catalogue} {e : Engine ε}
    (loaded : load loader = .ok e) : Changes (loader new).1 e := by
  obtain ⟨f, installed, rfl⟩ := load_eq_ok_iff.mp loaded
  have installs := changes_bindAll (loader new).2 (loader new).1
  rw [leaves_of_ok installed] at installs
  exact installs.tail (.reserve (loader new).2.names)

/-! ## 3. What a run does -/

section Runs

variable {m : Type → Type} [Monad m] {evaluators : Evaluators ε m} {name code : String}
  {e : Engine ε} {evaluator : ε}

theorem run_of_missing (missing : e.evaluator = none) :
    run evaluators name code e = pure (.error .noEvaluator, e) := by
  unfold run
  rw [missing]

theorem run_of_plain [LawfulMonad m] (installed : e.evaluator = some evaluator)
    (plain : e.preprocessor = none) :
    run evaluators name code e =
      (fun (outcome, left) => (outcome.mapError .script, left)) <$>
        evaluators evaluator name code e := by
  unfold run
  rw [installed, plain]
  exact bind_pure_comp _ _

theorem run_of_rejected {preprocessor : Preprocessor} {error : ScriptError}
    (installed : e.evaluator = some evaluator) (preparing : e.preprocessor = some preprocessor)
    (rejected : preprocessor.process name code = .error error) :
    run evaluators name code e = pure (.error (.script error), e) := by
  unfold run
  simp only [installed, preparing, rejected]

theorem run_of_processed [LawfulMonad m] {preprocessor : Preprocessor} {processed : Preprocessed}
    (installed : e.evaluator = some evaluator) (preparing : e.preprocessor = some preprocessor)
    (accepted : preprocessor.process name code = .ok processed) :
    run evaluators name code e =
      (fun (outcome, left) =>
        (outcome.mapError fun error => .script (error.relocate name processed.map), left)) <$>
        evaluators evaluator name processed.code e := by
  unfold run
  simp only [installed, preparing, accepted]
  exact bind_pure_comp _ _

/-- A run either fails before its script starts and leaves the engine as it is, or it lets the
installed evaluator do what it does to the engine, and tells the outcome in its own words. -/
theorem run_cases [LawfulMonad m] (evaluators : Evaluators ε m) (name code : String)
    (e : Engine ε) :
    (∃ error, run evaluators name code e = pure (.error error, e)) ∨
    ∃ (evaluator : ε) (text : String) (tell : Except ScriptError Unit → Except EngineError Unit),
      e.evaluator = some evaluator ∧ run evaluators name code e =
        (fun (outcome, left) => (tell outcome, left)) <$> evaluators evaluator name text e := by
  cases installed : e.evaluator with
  | none => exact .inl ⟨_, run_of_missing installed⟩
  | some evaluator =>
    cases preparing : e.preprocessor with
    | none => exact .inr ⟨evaluator, code, _, rfl, run_of_plain installed preparing⟩
    | some preprocessor =>
      cases prepared : preprocessor.process name code with
      | error error => exact .inl ⟨_, run_of_rejected installed preparing prepared⟩
      | ok processed =>
        exact .inr ⟨evaluator, processed.code, _, rfl,
          run_of_processed installed preparing prepared⟩

end Runs

end Engine

end ScriptBridge
