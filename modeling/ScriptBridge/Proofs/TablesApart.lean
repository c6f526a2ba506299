import ScriptBridge.Proofs.Listing

/-!
# Variables and builtins do not disturb each other

A call looks at the builtins only, so no write changes what it does. A read looks at the variables
and asks the builtins whether the name is theirs, so any registration could take a variable away.
None does: a name that is no builtin yet becomes one only if no variable has it, not even as nil.
This is shown for single changes of an engine and carried over to runs of operations, some of which
may fail.

Results:
1. `call_of_onlyVars`: what writes leave of calls.
2. `undefined_of_newBuiltin`: along any changes, a new builtin has a name that was no variable.
3. `taken_cases`: what registrations do to the availability of a name.
4. `tables_apart`: runs of writes, and runs of registrations.
-/

namespace ScriptBridge

namespace Engine

variable {ε : Type} {e e' : Engine ε} {name : String}

/-! ## 1. Calls -/

theorem call_of_onlyVars {m : Type → Type} [Monad m] (only : OnlyVars e e') (hooks : Hooks m)
    (name : String) (args : List Value) : call hooks e' name args = call hooks e name args := by
  obtain ⟨_, rfl⟩ := only
  rfl

/-! ## 2. New builtins -/

/-- A variable stays one, whatever is written to it. -/
theorem defines_mono_of_changes (changes : Changes e e') (defined : e.vars.defines name = true) :
    e'.vars.defines name = true := by
  induction changes with
  | refl => exact defined
  | tail _ change ih =>
    cases change with
    | equip => exact ih
    | bind => exact ih
    | reserve => exact ih
    | write => rw [defines_putVariable, ih, Bool.or_true]

theorem undefined_of_newBuiltin (changes : Changes e e') (before : e.isBuiltin name = false)
    (after : e'.isBuiltin name = true) : e.vars.defines name = false := by
  induction changes with
  | refl =>
    rw [before] at after
    cases after
  | @tail f g earlier change ih =>
    cases change with
    | equip => exact ih after
    | write => exact ih after
    | reserve => exact ih after
    | @bind b _ place =>
      rw [isBuiltin_putBuiltin, Bool.or_eq_true, decide_eq_true_iff] at after
      rcases after with rfl | already
      · rcases place with already | undefined
        · exact ih already
        · -- had it been a variable at first, it would be one when the builtin is put
          cases defined : e.vars.defines b.name with
          | false => rfl
          | true =>
            rw [defines_mono_of_changes earlier defined] at undefined
            cases undefined
      · exact ih already

/-! ## 3. Reads -/

theorem isBuiltin_of_available (available : e.isReserved name = false) :
    e.isBuiltin name = false := by
  rw [isReserved, Bool.or_eq_false_iff] at available
  exact available.1

/-- Registrations leave a name as available as it was, or make a builtin of it that no variable was
in the way of. -/
theorem taken_cases (only : OnlyBuiltins e e') (changes : Changes e e') (name : String) :
    e'.isReserved name = e.isReserved name ∨
      e.isReserved name = false ∧ e'.isBuiltin name = true ∧ e.vars.defines name = false := by
  cases reserved : e.isReserved name with
  | true => exact .inl ((kept_of_changes changes).reserved name reserved)
  | false =>
    cases after : e'.isBuiltin name with
    | true =>
      have before := isBuiltin_of_available reserved
      exact .inr ⟨rfl, rfl, undefined_of_newBuiltin changes before after⟩
    | false =>
      rw [isReserved, Bool.or_eq_false_iff] at reserved
      refine .inl ?_
      rw [isReserved, after, only.same_reserved, reserved.2]
      rfl

theorem has_of_isReserved_eq (only : OnlyBuiltins e e')
    (same : e'.isReserved name = e.isReserved name) : e'.has name = e.has name := by
  obtain ⟨_, rfl⟩ := only
  rw [has, has, same]

theorem get_of_isReserved_eq (only : OnlyBuiltins e e')
    (same : e'.isReserved name = e.isReserved name) : e'.get name = e.get name := by
  obtain ⟨_, rfl⟩ := only
  rw [get, get, same]

/-- A name that is no variable has no value and, unless it is reserved, is undefined. -/
theorem reads_of_undefined (undefined : e.vars.defines name = false) :
    e.has name = false ∧ (e.isReserved name = false → e.get name = .error (.undefined name)) := by
  have missing : e.vars.table.get? name = none :=
    Option.isNone_iff_eq_none.mp (Option.isSome_eq_false_iff.mp undefined)
  refine ⟨?_, fun available => ?_⟩
  · rw [has, Variables.has, missing, Bool.and_false]
  · simp [get, available, Variables.get, missing]

/-- Registrations keep whether a name has a value, and change what a read answers only where they
make a builtin of an undefined name. -/
theorem reads_of_onlyBuiltins (only : OnlyBuiltins e e') (changes : Changes e e') (name : String) :
    e'.has name = e.has name ∧
    (e.isReserved name = true ∨ e'.isBuiltin name = false → e'.get name = e.get name) ∧
    (e.isReserved name = false → e'.isBuiltin name = true →
      e.get name = .error (.undefined name) ∧ e'.get name = .error (.notReadable name)) := by
  rcases taken_cases only changes name with same | ⟨available, builtin, undefined⟩
  · refine ⟨has_of_isReserved_eq only same, fun _ => get_of_isReserved_eq only same, ?_⟩
    intro available builtin
    rw [available, isReserved_of_isBuiltin builtin] at same
    cases same
  · obtain ⟨absent, unknown⟩ := reads_of_undefined undefined
    obtain ⟨absent', unreadable, _⟩ :=
      unavailable_of_isReserved (isReserved_of_isBuiltin builtin)
    refine ⟨absent'.trans absent.symm, ?_, fun _ _ => ⟨unknown available, unreadable⟩⟩
    rintro (reserved | missing)
    · rw [available] at reserved
      cases reserved
    · rw [builtin] at missing
      cases missing

/-! ## 4. Runs -/

/-- Of any engine, and of any number of operations that may each succeed or fail, in any order:
* Variables that are set and declared, and settings that are pushed, on their own or by registries,
  leave the builtins as they are, so every call has the same outcome, whatever the host functions
  do. Settings that are pulled in between only look at the engine.
* Builtins that are defined and redefined, and catalogues that are bound, be it in part, leave it as
  it is whether a name has a value. They also leave what reading the name answers, unless the name
  is not reserved and becomes a builtin: then it was undefined and is no longer readable. So a
  variable that can be read, with nil as well as with a value, can be read as before. -/
theorem tables_apart (e : Engine ε) (ops : List (Op ε)) :
    ((∀ op ∈ ops, op.WritesVariables) →
      (Op.runs ops e).builtins = e.builtins ∧
      ∀ {m : Type → Type} [Monad m] (hooks : Hooks m) name args,
        call hooks (Op.runs ops e) name args = call hooks e name args) ∧
    ((∀ op ∈ ops, op.Registers) → ∀ name,
      (Op.runs ops e).has name = e.has name ∧
      (e.isReserved name = true ∨ (Op.runs ops e).isBuiltin name = false →
        (Op.runs ops e).get name = e.get name) ∧
      (e.isReserved name = false → (Op.runs ops e).isBuiltin name = true →
        e.get name = .error (.undefined name) ∧
        (Op.runs ops e).get name = .error (.notReadable name)) ∧
      ∀ v, e.get name = .ok v → (Op.runs ops e).get name = .ok v) := by
  refine ⟨fun writes => ?_, fun registers name => ?_⟩
  · have only := onlyVars_runs writes e
    exact ⟨only.same_builtins, fun hooks name args => call_of_onlyVars only hooks name args⟩
  · obtain ⟨has, same, taken⟩ :=
      reads_of_onlyBuiltins (onlyBuiltins_runs registers e) (changes_runs ops e) name
    refine ⟨has, same, taken, fun v readable => ?_⟩
    have available : e.isReserved name = false := (get_eq_ok_iff.mp ⟨v, readable⟩).1
    cases builtin : (Op.runs ops e).isBuiltin name with
    | false => exact (same (.inr builtin)).trans readable
    | true =>
      rw [(taken available builtin).1] at readable
      cases readable

/-- A function of one text. -/
def echo : HostFn := ⟨0, [.exact .string], none, [.value (.exact .string)]⟩

/-- A variable that holds nil stays readable where a builtin of its name is refused, and a call stays
what it was when a variable of the builtin's name is refused. -/
theorem note_stays_readable :
    let e : Engine Unit := Op.runs [.define "echo" echo, .set "note" .nil] new
    let registrations : List (Op Unit) :=
      [.define "note" echo, .define "size" echo, .bindAll ⟨.ofList [("note", .func echo)]⟩]
    let writes : List (Op Unit) := [.set "echo" (.int 1), .declare "greeting" (.string "hello")]
    (∀ op ∈ registrations, op.Registers) ∧ (∀ op ∈ writes, op.WritesVariables) ∧
      (Op.runs registrations e).get "note" = .ok .nil ∧
      (Op.runs registrations e).get "size" = .error (.notReadable "size") ∧
      ∀ (hooks : Hooks Id) args, call hooks (Op.runs writes e) "echo" args =
        call hooks e "echo" args := by
  intro e registrations writes
  have registers : ∀ op ∈ registrations, op.Registers := by simp [registrations, Op.Registers]
  have writing : ∀ op ∈ writes, op.WritesVariables := by simp [writes, Op.WritesVariables]
  have reads := (tables_apart e registrations).2 registers
  obtain ⟨_, calls⟩ := (tables_apart e writes).1 writing
  refine ⟨registers, writing, ?_, ?_, fun hooks args => calls hooks "echo" args⟩
  · exact (reads "note").2.2.2 .nil rfl
  · exact ((reads "size").2.2.1 rfl rfl).2

end Engine

end ScriptBridge
