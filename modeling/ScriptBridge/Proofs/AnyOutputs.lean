import ScriptBridge.Proofs.ArgumentCheck

/-!
# Calls of functions that keep no declaration

Nothing holds a host function to the returns that it declares: it may produce any outputs, and any
number of them. `Builtin.Concludes` lists the ways in which a call can end, by the shape of the
outputs alone, and `Builtin.Tells` what an error of the host function is told as.

Results:
1. `tells_iff_blame`: an error of the host function is told in one of the ways of `Tells`.
2. `concludes_iff`: a call ends in exactly one of the ways of `Concludes`.
3. `conclude_blank`: the values behind the first output make no difference.
4. `call_settled_by_outputs`: all of this for a call whose arguments pass the check;
   `bad_descriptor_unnamed`: not every type error gets the name of the function.
-/

namespace ScriptBridge

/-! ## 1. Errors of host functions -/

theorem TypeError.nameOnce_of_named {e : TypeError} {field : String} (name : String)
    (named : e.field? = some field) : e.nameOnce name = e := by
  cases e with
  | badDescriptor => rfl
  | _ own got wants =>
    have present : own ≠ "" := by
      rintro rfl
      cases named
    simp [nameOnce, present]

namespace Builtin

/-- `b.Tells h e`: a call of `b` tells the error `h` of the host function as `e`. A rejected
argument gets the name and the signature of `b`, and no place. A type error gets the name of `b` if
it has none of its own and can have one. Every other error is passed on as it is. -/
inductive Tells (b : Builtin) : HostError → CallError → Prop
  | rejected {got : String} {takes : List String} :
      Tells b (.rejected got takes) (.argumentType b.name none got takes b.render)
  | unnamedType {got wants : String} :
      Tells b (.type (.wrongType "" got wants)) (.type (.wrongType b.name got wants))
  | unnamedMethods {got wants : String} :
      Tells b (.type (.lacksMethods "" got wants)) (.type (.lacksMethods b.name got wants))
  | named {e : TypeError} {field : String} : e.field? = some field → Tells b (.type e) (.type e)
  | badDescriptor : Tells b (.type .badDescriptor) (.type .badDescriptor)
  | conversion {e : ConversionError} : Tells b (.conversion e) (.host (.conversion e))
  | other {text : String} : Tells b (.other text) (.host (.other text))

theorem tells_blame (b : Builtin) (h : HostError) : b.Tells h (b.blame h) := by
  cases h with
  | rejected got takes => exact .rejected
  | conversion e => exact .conversion
  | other text => exact .other
  | type e =>
    cases named : e.field? with
    | some field =>
      rw [blame, TypeError.nameOnce_of_named b.name named]
      exact .named named
    | none =>
      -- an error without a field has the empty one, or no place for any
      cases e with
      | badDescriptor => exact .badDescriptor
      | wrongType field got wants =>
        obtain rfl : field = "" := by simpa [TypeError.field?] using named
        exact .unnamedType
      | lacksMethods field got wants =>
        obtain rfl : field = "" := by simpa [TypeError.field?] using named
        exact .unnamedMethods

theorem tells_iff_blame {b : Builtin} {h : HostError} {e : CallError} :
    b.Tells h e ↔ b.blame h = e := by
  constructor
  · intro tells
    cases tells with
    | named named => rw [blame, TypeError.nameOnce_of_named b.name named]
    | _ => rfl
  · rintro rfl
    exact b.tells_blame h

end Builtin

/-! ## 2. The ways in which a call ends -/

/-- None of the outputs raises an error. -/
def Silent (outputs : List Output) : Prop := ∀ h, .error (some h) ∉ outputs

theorem failure_eq_none_of_silent {outputs : List Output} (silent : Silent outputs) :
    outputs.findSome? Output.failure? = none := by
  cases raised : outputs.findSome? Output.failure? with
  | none => rfl
  | some h => exact absurd (mem_of_failure raised) (silent h)

/-- The error that is found is the leftmost one. -/
theorem failure_eq_some_iff {outputs : List Output} {h : HostError} :
    outputs.findSome? Output.failure? = some h ↔
      ∃ before after, outputs = before ++ .error (some h) :: after ∧ Silent before := by
  rw [List.findSome?_eq_some_iff]
  constructor
  · rintro ⟨before, output, after, rfl, raises, quiet⟩
    have front : Silent before := notMem_of_silent (List.findSome?_eq_none_iff.mpr quiet)
    cases output with
    | value v => cases raises
    | error raised =>
      obtain rfl : raised = some h := raises
      exact ⟨before, after, rfl, front⟩
  · rintro ⟨before, after, rfl, silent⟩
    exact ⟨before, _, after, rfl, rfl,
      List.findSome?_eq_none_iff.mp (failure_eq_none_of_silent silent)⟩

namespace Builtin

/-- `b.Concludes outputs r`: a call of `b` whose host function produces `outputs` ends with `r`.
* `raised`: with the leftmost raised error, whatever the number of the outputs is.
* `miscounted`: without an error, but with another number of outputs than declared.
* `answered`: with the value of the first output, where a value is declared first.
* `empty`: with nil, where no value is declared first or none is produced there. -/
inductive Concludes (b : Builtin) : List Output → Except CallError Value → Prop
  | raised {before after : List Output} {h : HostError} {e : CallError} :
      Silent before → b.Tells h e → Concludes b (before ++ .error (some h) :: after) (.error e)
  | miscounted {outputs : List Output} :
      Silent outputs → outputs.length ≠ b.signature.returns.length →
      Concludes b outputs
        (.error (.outputCount b.name b.signature.returns.length outputs.length))
  | answered {v : Value} {rest : List Output} {type : ValueType} {returns : List ReturnKind} :
      Silent rest → b.signature.returns = .value type :: returns → rest.length = returns.length →
      Concludes b (.value v :: rest) (.ok v)
  | empty {outputs : List Output} :
      Silent outputs → outputs.length = b.signature.returns.length →
      (∀ type v, b.signature.returns.head? = some (.value type) →
        outputs.head? ≠ some (.value v)) →
      Concludes b outputs (.ok .nil)

variable {b : Builtin} {outputs : List Output}

theorem conclude_of_raised {before : List Output} (silent : Silent before) (h : HostError)
    (after : List Output) :
    b.conclude (before ++ .error (some h) :: after) = .error (b.blame h) := by
  have leftmost : (before ++ .error (some h) :: after).findSome? Output.failure? = some h :=
    failure_eq_some_iff.mpr ⟨before, after, rfl, silent⟩
  simp only [conclude, leftmost]

theorem silent_cons_value {v : Value} {rest : List Output} :
    Silent (.value v :: rest) ↔ Silent rest := by
  simp [Silent]

theorem concludes_conclude (b : Builtin) (outputs : List Output) :
    b.Concludes outputs (b.conclude outputs) := by
  cases raised : outputs.findSome? Output.failure? with
  | some h =>
    obtain ⟨before, after, rfl, silent⟩ := failure_eq_some_iff.mp raised
    rw [conclude_of_raised silent]
    exact .raised silent (b.tells_blame h)
  | none =>
    have silent : Silent outputs := notMem_of_silent raised
    by_cases count : outputs.length = b.signature.returns.length
    · rcases b.conclude_cases outputs with
        ⟨h, member, _⟩ | ⟨_, ⟨wrong, _⟩ | ⟨type, v, returns, rest, first, rfl, told⟩ | ⟨no, told⟩⟩
      · exact absurd member (silent h)
      · exact absurd count wrong
      · rw [told]
        rw [first] at count
        exact .answered (silent_cons_value.mp silent) first (Nat.succ_inj.mp count)
      · rw [told]
        exact .empty silent count no
    · have told : b.conclude outputs =
          .error (.outputCount b.name b.signature.returns.length outputs.length) := by
        simp [conclude, raised, count]
      rw [told]
      exact .miscounted silent count

theorem concludes_iff {r : Except CallError Value} :
    b.Concludes outputs r ↔ b.conclude outputs = r := by
  constructor
  · intro concludes
    cases concludes with
    | raised silent tells => rw [conclude_of_raised silent, tells_iff_blame.mp tells]
    | miscounted silent count => simp [conclude, failure_eq_none_of_silent silent, count]
    | @answered v rest _ _ silent first count =>
      have quiet : Silent (.value v :: rest) := silent_cons_value.mpr silent
      simp [conclude, failure_eq_none_of_silent quiet, first, count]
    | empty silent count no =>
      -- `no` rules out the case of the match that answers a value
      simp only [conclude, failure_eq_none_of_silent silent, count, ne_eq, not_true_eq_false,
        if_false]
  · rintro rfl
    exact b.concludes_conclude outputs

end Builtin

/-! ## 3. Values behind the first output -/

/-- The output with nil for its value, if it has one. -/
def Output.blank : Output → Output
  | value _ => value .nil
  | error raised => error raised

theorem Output.failure?_blank (output : Output) : output.blank.failure? = output.failure? := by
  cases output <;> rfl

namespace Builtin

/-- A call can not tell which values are produced behind the first output. -/
theorem conclude_blank (b : Builtin) (first : Output) (rest : List Output) :
    b.conclude (first :: rest.map Output.blank) = b.conclude (first :: rest) := by
  have same : (first :: rest.map Output.blank).findSome? Output.failure? =
      (first :: rest).findSome? Output.failure? := by
    simp [List.findSome?_cons, List.findSome?_map, Function.comp_def, Output.failure?_blank]
  simp [conclude, same]

/-! ## 4. Calls -/

/-- Once its arguments pass the check, a call runs the host function and is settled by what that
produces, whatever it is:
* the leftmost error that is raised ends the call, also when the number of outputs is wrong; it is
  told as `Tells` says;
* without an error, another number of outputs than declared is an error that names both numbers;
* otherwise the call answers the value of the first output if a value is declared and produced
  there, and nil if not.

No value of a later output has any part in this. -/
theorem call_settled_by_outputs {b : Builtin} {args : List Value}
    (passed : b.argumentError? args = none) :
    (∀ (m : Type → Type) [Monad m] [LawfulMonad m] (hooks : Hooks m),
      b.call hooks args = b.conclude <$> hooks b.fn args) ∧
    (∀ outputs r, b.conclude outputs = r ↔ b.Concludes outputs r) ∧
    ∀ first rest, b.conclude (first :: rest.map Output.blank) = b.conclude (first :: rest) :=
  ⟨fun _ _ _ hooks => call_of_takes (argumentError?_eq_none_iff.mp passed) hooks,
    fun _ _ => concludes_iff.symm, b.conclude_blank⟩

/-- A function that adds up numbers produces two outputs where one is declared, and the second is a
type error without a name. -/
theorem sum_settled_by_outputs :
    let args := [.string "total", .int 1]
    let outputs := [.value (.int 1), .error (some (.type (.wrongType "" "string" "int")))]
    sum.argumentError? args = none ∧
      sum.call (m := Id) (fun _ _ => outputs) args =
        .error (.type (.wrongType "sum" "string" "int")) := by
  intro args outputs
  have passed : sum.argumentError? args = none := by decide
  obtain ⟨called, settled, _⟩ := call_settled_by_outputs passed
  have front : Silent [.value (.int 1)] := by simp [Silent]
  have concluded : sum.conclude outputs = .error (.type (.wrongType "sum" "string" "int")) :=
    (settled _ _).mpr (.raised front .unnamedType)
  exact ⟨passed, (called Id fun _ _ => outputs).trans concluded⟩

/-- The type error about a malformed descriptor has no place for a name. A call passes it on without
one, although it had none before. -/
theorem bad_descriptor_unnamed :
    let check : Builtin := ⟨"check", 0, [], none, [.error]⟩
    check.argumentError? [] = none ∧ TypeError.badDescriptor.field? = none ∧
      check.call (m := Id) (fun _ _ => [.error (some (.type .badDescriptor))]) [] =
        .error (.type .badDescriptor) ∧
      (CallError.type .badDescriptor).functionName? ≠ some "check" := by
  intro check
  exact ⟨rfl, rfl, rfl, nofun⟩

end Builtin

end ScriptBridge
