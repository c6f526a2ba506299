import ScriptBridge.Proofs.EngineChange

/-!
# The namespace of an engine

Variables and builtins share one namespace, and some names are reserved for builtins. Each operation
guards this by a test of its own: writes look at the builtins and the reserved names, a definition
looks at the builtins and the variables, a redefinition at the builtins only, and while a loader
runs no name is reserved at all. Here the operations may come in any order and may fail, scripts may
run further scripts, and the namespace still holds.

Results:
1. `changes_of_reaches`: whatever an engine goes through is a chain of changes.
2. `wellFormed_of_change`, `kept_of_change`: a change keeps the two tables apart, every builtin
   under its own name, and every name taken that was taken.
3. `reached_namespace`: the namespace of every engine that is reached from a new one.
-/

namespace ScriptBridge

open Relation

namespace Engine

variable {ε : Type}

/-! ## 1. What an engine goes through -/

/-- What a host may do to an engine, scripts and loading apart. -/
inductive Op (ε : Type)
  | equip (evaluator : Option ε) (preprocessor : Option Preprocessor)
  | set (name : String) (v : Value)
  | declare (name : String) (v : Value)
  | define (name : String) (fn : HostFn)
  | redefine (name : String) (fn : HostFn)
  | bindAll (catalogue : Catalogue)
  | supply (s : Setting)
  | supplyOrClear (s : Setting)
  | impose (s : Setting)
  | supplyEach (r : Settings)
  | supplyOrClearEach (r : Settings)
  | imposeEach (r : Settings)

/-- The engine that an operation leaves, whether it succeeds or fails. -/
def Op.apply : Op ε → Engine ε → Engine ε
  | equip evaluator preprocessor, e =>
    { e with evaluator := evaluator, preprocessor := preprocessor }
  | set name v, e => leaves (Engine.set name v) e
  | declare name v, e => leaves (Engine.declare name v) e
  | define name fn, e => leaves (Engine.define name fn) e
  | redefine name fn, e => leaves (Engine.redefine name fn) e
  | bindAll catalogue, e => leaves catalogue.bindAll e
  | supply s, e => leaves s.supply e
  | supplyOrClear s, e => leaves s.supplyOrClear e
  | impose s, e => leaves s.impose e
  | supplyEach r, e => leaves r.supply e
  | supplyOrClearEach r, e => leaves r.supplyOrClear e
  | imposeEach r, e => leaves r.impose e

/-- `Reaches e e'`: the engine `e` becomes `e'` by operations, by runs of scripts that do nothing
else to it, and by the end of loading, when the builtins of the loader are installed on the engine
that it leaves. The evaluators may keep a state of their own between runs. -/
inductive Reaches : Engine ε → Engine ε → Prop
  | refl (e : Engine ε) : Reaches e e
  | trans {e f g : Engine ε} : Reaches e f → Reaches f g → Reaches e g
  | op (op : Op ε) (e : Engine ε) : Reaches e (op.apply e)
  | load {loader : Engine ε → Engine ε × Catalogue} {e : Engine ε} :
      load loader = .ok e → Reaches (loader new).1 e
  | run {state : Type} (evaluators : Evaluators ε (StateM state)) (name code : String)
      (e : Engine ε) (s : state) :
      (∀ evaluator text, e.evaluator = some evaluator →
        Reaches e (evaluators evaluator name text e s).1.2) →
      Reaches e (run evaluators name code e s).1.2
  | runFile {state : Type} (evaluators : Evaluators ε (StateM state)) (path : String)
      (source : Except ReadError String) (e : Engine ε) (s : state) :
      (∀ evaluator text, e.evaluator = some evaluator →
        Reaches e (evaluators evaluator path text e s).1.2) →
      Reaches e (runFile evaluators path source e s).1.2

theorem changes_of_apply (op : Op ε) (e : Engine ε) : Changes e (op.apply e) := by
  cases op with
  | equip evaluator preprocessor => exact .single (.equip evaluator preprocessor)
  | set name v => exact changes_set name v e
  | declare name v => exact changes_declare name v e
  | define name fn => exact changes_define name fn e
  | redefine name fn => exact changes_redefine name fn e
  | bindAll catalogue => exact changes_bindAll catalogue e
  | supply s => exact changes_supply s e
  | supplyOrClear s => exact changes_supplyOrClear s e
  | impose s => exact changes_impose s e
  | supplyEach r => exact steps_forM changes_supply r.settings e
  | supplyOrClearEach r => exact steps_forM changes_supplyOrClear r.settings e
  | imposeEach r => exact steps_forM changes_impose r.settings e

/-- A run takes the changes that the evaluator takes. -/
theorem changes_run {state : Type} {evaluators : Evaluators ε (StateM state)} {name code : String}
    {e : Engine ε} {s : state}
    (acts : ∀ evaluator text, e.evaluator = some evaluator →
      Changes e (evaluators evaluator name text e s).1.2) :
    Changes e (run evaluators name code e s).1.2 := by
  rcases run_cases evaluators name code e with
    ⟨error, failed⟩ | ⟨evaluator, text, _, installed, ran⟩
  · rw [failed]
    exact .refl
  · rw [ran]
    exact acts evaluator text installed

theorem changes_of_reaches {e e' : Engine ε} (reaches : Reaches e e') : Changes e e' := by
  induction reaches with
  | refl e => exact .refl
  | trans _ _ first second => exact first.trans second
  | op op e => exact changes_of_apply op e
  | load loaded => exact changes_load loaded
  | run evaluators name code e s _ acts => exact changes_run acts
  | runFile evaluators path source e s _ acts =>
    cases source with
    | error cause => exact .refl
    | ok code => exact changes_run acts

/-! ## 2. What a change keeps -/

/-- No name is a variable and a builtin, and every builtin can be bound and stands under its own
name. -/
structure WellFormed (e : Engine ε) : Prop where
  apart : ∀ name, e.isBuiltin name = true → e.vars.defines name = false
  named : ∀ name b, e.builtin? name = some b → b.name = name
  bindable : ∀ name b, e.builtin? name = some b → b.signature.Bindable

/-- What was a builtin or reserved in the first engine is so in the second. -/
structure Kept (e e' : Engine ε) : Prop where
  builtin : ∀ name, e.isBuiltin name = true → e'.isBuiltin name = true
  reserved : ∀ name, e.isReserved name = true → e'.isReserved name = true

theorem Kept.refl (e : Engine ε) : Kept e e :=
  ⟨fun _ builtin => builtin, fun _ reserved => reserved⟩

theorem Kept.trans {e f g : Engine ε} (first : Kept e f) (second : Kept f g) : Kept e g := by
  refine ⟨?_, ?_⟩
  · intro name builtin
    exact second.builtin name (first.builtin name builtin)
  · intro name reserved
    exact second.reserved name (first.reserved name reserved)

theorem wellFormed_new : WellFormed (new : Engine ε) := by
  refine ⟨?_, ?_, ?_⟩
  · intro name builtin
    cases builtin
  · intro name b found
    cases found
  · intro name b found
    cases found

theorem isReserved_of_isBuiltin {e : Engine ε} {name : String} (builtin : e.isBuiltin name = true) :
    e.isReserved name = true := by
  rw [isReserved, builtin, Bool.true_or]

theorem wellFormed_of_change {e e' : Engine ε} (change : Change e e') (held : WellFormed e) :
    WellFormed e' := by
  cases change with
  | equip => exact ⟨held.apart, held.named, held.bindable⟩
  | reserve => exact ⟨held.apart, held.named, held.bindable⟩
  | @write name v free =>
    refine ⟨?_, held.named, held.bindable⟩
    intro other builtin
    -- a builtin is reserved, so its name is not the one that is written
    have builtin : e.isBuiltin other = true := builtin
    have different : name ≠ other := by
      rintro rfl
      rw [isReserved_of_isBuiltin builtin] at free
      cases free
    rw [defines_putVariable, decide_eq_false different, Bool.false_or]
    exact held.apart other builtin
  | @bind b bindable place =>
    -- the name was a builtin, so no variable has it, or none has it anyway
    have undefined : e.vars.defines b.name = false := place.elim (held.apart b.name) id
    refine ⟨?_, ?_, ?_⟩
    · intro name builtin
      rw [isBuiltin_putBuiltin, Bool.or_eq_true, decide_eq_true_iff] at builtin
      rcases builtin with rfl | builtin
      · exact undefined
      · exact held.apart name builtin
    · intro name found present
      rw [builtin?_putBuiltin] at present
      split at present
      · next same =>
        cases present
        exact same
      · exact held.named name found present
    · intro name found present
      rw [builtin?_putBuiltin] at present
      split at present
      · cases present
        exact bindable
      · exact held.bindable name found present

theorem kept_of_change {e e' : Engine ε} (change : Change e e') : Kept e e' := by
  cases change with
  | equip => exact ⟨fun _ builtin => builtin, fun _ reserved => reserved⟩
  | write => exact ⟨fun _ builtin => builtin, fun _ reserved => reserved⟩
  | @bind b =>
    have builtin (name) (before : e.isBuiltin name = true) :
        (e.putBuiltin b).isBuiltin name = true := by
      rw [isBuiltin_putBuiltin, before, Bool.or_true]
    refine ⟨builtin, ?_⟩
    intro name reserved
    rw [isReserved, Bool.or_eq_true] at reserved ⊢
    exact reserved.imp_left (builtin name)
  | reserve names =>
    refine ⟨fun _ builtin => builtin, ?_⟩
    intro name reserved
    rw [isReserved, Bool.or_eq_true] at reserved ⊢
    refine reserved.imp_right ?_
    intro listed
    rw [List.contains_iff_mem] at listed ⊢
    exact List.mem_append_right names listed

/-- What well-formed engines go through leaves them well-formed. -/
theorem wellFormed_of_changes {e e' : Engine ε} (changes : Changes e e') (held : WellFormed e) :
    WellFormed e' := by
  induction changes with
  | refl => exact held
  | tail _ change ih => exact wellFormed_of_change change ih

/-- A name that was taken stays taken. -/
theorem kept_of_changes {e e' : Engine ε} (changes : Changes e e') : Kept e e' := by
  induction changes with
  | refl => exact .refl e
  | tail _ change ih => exact ih.trans (kept_of_change change)

/-! ## 3. The namespace of a reached engine -/

/-- A reserved name cannot be read or written as a variable, and the attempt changes nothing. -/
theorem unavailable_of_isReserved {e : Engine ε} {name : String}
    (reserved : e.isReserved name = true) :
    e.has name = false ∧ e.get name = .error (.notReadable name) ∧
    ∀ v, set name v e = .error (.isFunction name) e ∧
      declare name v e = .error (.isFunction name) e := by
  refine ⟨?_, ?_, fun v => ⟨?_, ?_⟩⟩
  · simp [has, reserved]
  · simp [get, reserved]
  · simp [set, write, reserved]
  · simp [declare, write, reserved]

/-- The namespace of an engine that is reached from a new one, in whatever way: no name is a
variable and a builtin; every builtin stands under its own name and declares at most two returns,
the second of which can only be the error; whatever the engine reaches later, its reserved names and
its builtins are so there too; and a reserved name has no value, cannot be read, and is refused by
every write, which leaves the engine as it is. -/
theorem reached_namespace {e : Engine ε} (reached : Reaches new e) :
    (∀ name, ¬ (e.vars.defines name = true ∧ e.isBuiltin name = true)) ∧
    (∀ name b, e.builtin? name = some b → b.name = name ∧ b.signature.returns.length ≤ 2 ∧
      ∀ kind, b.signature.returns[1]? = some kind → kind = .error) ∧
    (∀ e', Reaches e e' → ∀ name,
      (e.isReserved name = true → e'.isReserved name = true) ∧
      (e.isBuiltin name = true → e'.isBuiltin name = true)) ∧
    ∀ name, e.isReserved name = true →
      e.has name = false ∧ e.get name = .error (.notReadable name) ∧
      ∀ v, set name v e = .error (.isFunction name) e ∧
        declare name v e = .error (.isFunction name) e := by
  have held := wellFormed_of_changes (changes_of_reaches reached) wellFormed_new
  refine ⟨?_, ?_, ?_, ?_⟩
  · rintro name ⟨defined, builtin⟩
    rw [held.apart name builtin] at defined
    cases defined
  · intro name b found
    have bindable := held.bindable name b found
    exact ⟨held.named name b found, bindable.at_most_two, bindable.second_error⟩
  · intro e' reaches name
    have kept := kept_of_changes (changes_of_reaches reaches)
    exact ⟨kept.reserved name, kept.builtin name⟩
  · intro name reserved
    exact unavailable_of_isReserved reserved

/-- Sets a greeting and answers a function and a name without one. -/
def greeter (e : Engine Unit) : Engine Unit × Catalogue :=
  (leaves (set "greeting" (.string "hello")) e,
    ⟨.ofList [("shout", .func ⟨0, [.exact .string], none, [.value (.exact .string)]⟩),
      ("unused", .nil)]⟩)

theorem greeter_namespace : ∃ e : Engine Unit, load greeter = .ok e ∧
    e.isBuiltin "unused" = false ∧ e.isReserved "unused" = true ∧ e.has "unused" = false ∧
    set "unused" (.int 1) e = .error (.isFunction "unused") e := by
  have loaded : ∃ e, load greeter = .ok e ∧ e.isBuiltin "unused" = false ∧
      e.isReserved "unused" = true := by
    exact ⟨_, rfl, rfl, rfl⟩
  obtain ⟨e, loaded, missing, reserved⟩ := loaded
  have greeted : Reaches new (greeter new).1 := .op (.set "greeting" (.string "hello")) new
  obtain ⟨_, _, _, unavailable⟩ := reached_namespace (greeted.trans (.load loaded))
  obtain ⟨absent, _, refused⟩ := unavailable "unused" reserved
  exact ⟨e, loaded, missing, reserved, absent, (refused (.int 1)).1⟩

end Engine

end ScriptBridge
