import ScriptBridge.Proofs.Namespace
import ScriptBridge.Proofs.PushBatch

/-!
# What operations leave alone

An engine has two tables, and every operation has to do with one of them. Writes, and settings that
are pushed, change variables and nothing else; registrations change builtins and nothing else, and
that also when they fail half-way. The reserved names are only changed by loading.

Results:
1. `onlyVars_set`, `onlyVars_declare`, `onlyVars_push`, `onlyVars_pushEach`: the first kind.
2. `onlyBuiltins_define`, `onlyBuiltins_redefine`, `onlyBuiltins_bindAll`: the second kind.
3. `onlyVars_runs`, `onlyBuiltins_runs`: any number of operations of one kind.
4. `reserved_runs`: no operation reserves a name or gives one back.
-/

namespace ScriptBridge

namespace Engine

variable {ε : Type}

/-- The second engine is the first with other variables. -/
def OnlyVars (e e' : Engine ε) : Prop := ∃ vars, e' = { e with vars := vars }

/-- The second engine is the first with other builtins. -/
def OnlyBuiltins (e e' : Engine ε) : Prop := ∃ builtins, e' = { e with builtins := builtins }

theorem OnlyVars.refl (e : Engine ε) : OnlyVars e e := ⟨e.vars, rfl⟩

theorem OnlyVars.trans {e f g : Engine ε} (first : OnlyVars e f) (second : OnlyVars f g) :
    OnlyVars e g := by
  obtain ⟨_, rfl⟩ := first
  obtain ⟨vars, rfl⟩ := second
  exact ⟨vars, rfl⟩

theorem OnlyBuiltins.refl (e : Engine ε) : OnlyBuiltins e e := ⟨e.builtins, rfl⟩

theorem OnlyBuiltins.trans {e f g : Engine ε} (first : OnlyBuiltins e f)
    (second : OnlyBuiltins f g) : OnlyBuiltins e g := by
  obtain ⟨_, rfl⟩ := first
  obtain ⟨builtins, rfl⟩ := second
  exact ⟨builtins, rfl⟩

instance : Std.Refl (@OnlyBuiltins ε) := ⟨.refl⟩

instance : IsTrans (Engine ε) OnlyBuiltins := ⟨fun _ _ _ => .trans⟩

theorem OnlyVars.same_builtins {e e' : Engine ε} (only : OnlyVars e e') :
    e'.builtins = e.builtins := by
  obtain ⟨_, rfl⟩ := only
  rfl

theorem OnlyVars.same_reserved {e e' : Engine ε} (only : OnlyVars e e') :
    e'.reserved = e.reserved := by
  obtain ⟨_, rfl⟩ := only
  rfl

theorem OnlyBuiltins.same_vars {e e' : Engine ε} (only : OnlyBuiltins e e') :
    e'.vars = e.vars := by
  obtain ⟨_, rfl⟩ := only
  rfl

theorem OnlyBuiltins.same_reserved {e e' : Engine ε} (only : OnlyBuiltins e e') :
    e'.reserved = e.reserved := by
  obtain ⟨_, rfl⟩ := only
  rfl

/-! ## 1. Writes -/

theorem onlyVars_write (name : String) (act : EStateM ScopeError Variables Unit) (e : Engine ε) :
    OnlyVars e (leaves (write name act) e) := by
  unfold leaves write
  cases e.isReserved name with
  | true => exact .refl e
  | false =>
    cases act e.vars with
    | ok u vars => exact ⟨vars, rfl⟩
    | error error vars => exact ⟨vars, rfl⟩

theorem onlyVars_set (name : String) (v : Value) (e : Engine ε) :
    OnlyVars e (leaves (set name v) e) :=
  onlyVars_write name _ e

theorem onlyVars_declare (name : String) (v : Value) (e : Engine ε) :
    OnlyVars e (leaves (declare name v) e) :=
  onlyVars_write name _ e

theorem onlyVars_push (p : Push) (s : Setting) (e : Engine ε) :
    OnlyVars e (leaves (p.one s) e) := by
  unfold leaves
  rw [Push.one_eq]
  split
  · next outcome =>
    split at outcome <;> cases outcome
    exact ⟨_, rfl⟩
  · next outcome =>
    split at outcome <;> cases outcome
    exact .refl e

/-- A list of settings is pushed up to the first that is refused, which is a push of the settings in
front of it. -/
theorem onlyVars_pushEach (p : Push) (settings : List Setting) (e : Engine ε) :
    OnlyVars e (leaves (settings.forM p.one) e) := by
  rcases Push.forM_cases p settings e with ⟨_, outcome⟩ | ⟨_, _, _, _, _, _, outcome⟩
  · rw [leaves_of_ok outcome]
    exact ⟨_, rfl⟩
  · rw [leaves_of_error outcome]
    exact ⟨_, rfl⟩

/-! ## 2. Registrations -/

theorem onlyBuiltins_install (name : String) (b : Builtin) (e : Engine ε) :
    OnlyBuiltins e (leaves (install name b) e) := by
  unfold leaves install
  cases e.isBuiltin name with
  | true => exact .refl e
  | false =>
    cases e.vars.defines name with
    | true => exact .refl e
    | false => exact ⟨_, rfl⟩

theorem onlyBuiltins_define (name : String) (fn : HostFn) (e : Engine ε) :
    OnlyBuiltins e (leaves (define name fn) e) := by
  rw [leaves_define]
  cases Builtin.bind name fn with
  | error breach => exact .refl e
  | ok b => exact onlyBuiltins_install name b e

theorem onlyBuiltins_redefine (name : String) (fn : HostFn) (e : Engine ε) :
    OnlyBuiltins e (leaves (redefine name fn) e) := by
  unfold leaves redefine
  cases e.isBuiltin name with
  | false => exact .refl e
  | true =>
    cases Builtin.bind name fn with
    | error breach => exact .refl e
    | ok b => exact ⟨_, rfl⟩

theorem onlyBuiltins_bindEntry (name : String) (v : Value) (e : Engine ε) :
    OnlyBuiltins e (leaves (Catalogue.bindEntry name v) e) := by
  cases v with
  | func fn => exact onlyBuiltins_define name fn e
  | _ => exact .refl e

theorem onlyBuiltins_bindAll (c : Catalogue) (e : Engine ε) :
    OnlyBuiltins e (leaves c.bindAll e) := by
  have steps : Relation.ReflTransGen OnlyBuiltins e (leaves c.bindAll e) :=
    steps_forM (fun (name, v) e => .single (onlyBuiltins_bindEntry name v e)) c.table.sorted e
  rwa [Relation.reflTransGen_eq_self] at steps

/-! ## 3. Operations of one kind -/

/-- The operation writes variables, itself or through settings that are pushed. -/
def Op.WritesVariables : Op ε → Prop
  | set .. | declare .. | supply _ | supplyOrClear _ | impose _ | supplyEach _
  | supplyOrClearEach _ | imposeEach _ => True
  | _ => False

/-- The operation registers builtins. -/
def Op.Registers : Op ε → Prop
  | define .. | redefine .. | bindAll _ => True
  | _ => False

/-- The engine that some operations leave, each of which may have failed. -/
def Op.runs : List (Op ε) → Engine ε → Engine ε
  | [], e => e
  | op :: ops, e => runs ops (op.apply e)

theorem onlyVars_apply {op : Op ε} (writes : op.WritesVariables) (e : Engine ε) :
    OnlyVars e (op.apply e) := by
  cases op with
  | set name v => exact onlyVars_set name v e
  | declare name v => exact onlyVars_declare name v e
  | supply s => exact onlyVars_push .supply s e
  | supplyOrClear s => exact onlyVars_push .supplyOrClear s e
  | impose s => exact onlyVars_push .impose s e
  | supplyEach r => exact onlyVars_pushEach .supply r.settings e
  | supplyOrClearEach r => exact onlyVars_pushEach .supplyOrClear r.settings e
  | imposeEach r => exact onlyVars_pushEach .impose r.settings e
  | _ => exact False.elim writes

theorem onlyBuiltins_apply {op : Op ε} (registers : op.Registers) (e : Engine ε) :
    OnlyBuiltins e (op.apply e) := by
  cases op with
  | define name fn => exact onlyBuiltins_define name fn e
  | redefine name fn => exact onlyBuiltins_redefine name fn e
  | bindAll catalogue => exact onlyBuiltins_bindAll catalogue e
  | _ => exact False.elim registers

theorem onlyVars_runs {ops : List (Op ε)} (writes : ∀ op ∈ ops, op.WritesVariables)
    (e : Engine ε) : OnlyVars e (Op.runs ops e) := by
  induction ops generalizing e with
  | nil => exact .refl e
  | cons op rest ih =>
    obtain ⟨first, behind⟩ := List.forall_mem_cons.mp writes
    exact (onlyVars_apply first e).trans (ih behind (op.apply e))

theorem onlyBuiltins_runs {ops : List (Op ε)} (registers : ∀ op ∈ ops, op.Registers)
    (e : Engine ε) : OnlyBuiltins e (Op.runs ops e) := by
  induction ops generalizing e with
  | nil => exact .refl e
  | cons op rest ih =>
    obtain ⟨first, behind⟩ := List.forall_mem_cons.mp registers
    exact (onlyBuiltins_apply first e).trans (ih behind (op.apply e))

theorem changes_runs (ops : List (Op ε)) (e : Engine ε) : Changes e (Op.runs ops e) := by
  induction ops generalizing e with
  | nil => exact .refl
  | cons op rest ih => exact (changes_of_apply op e).trans (ih (op.apply e))

/-! ## 4. Reserved names -/

/-- An operation that neither writes nor registers installs the means to run scripts. -/
theorem Op.kinds (op : Op ε) : op.WritesVariables ∨ op.Registers ∨
    ∃ evaluator preprocessor, op = .equip evaluator preprocessor := by
  cases op <;> simp [WritesVariables, Registers]

theorem reserved_apply (op : Op ε) (e : Engine ε) : (op.apply e).reserved = e.reserved := by
  rcases op.kinds with writes | registers | ⟨evaluator, preprocessor, rfl⟩
  · exact (onlyVars_apply writes e).same_reserved
  · exact (onlyBuiltins_apply registers e).same_reserved
  · rfl

theorem reserved_runs (ops : List (Op ε)) (e : Engine ε) :
    (Op.runs ops e).reserved = e.reserved := by
  induction ops generalizing e with
  | nil => rfl
  | cons op rest ih => exact (ih (op.apply e)).trans (reserved_apply op e)

end Engine

end ScriptBridge
