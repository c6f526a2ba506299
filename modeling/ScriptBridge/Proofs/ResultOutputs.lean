import ScriptBridge.Proofs.AnyOutputs
import ScriptBridge.Proofs.Rendering
import ScriptBridge.Proofs.TypedCall

/-!
# Results and their outputs

A typed host function answers a result of any shape, and the result travels as a list of outputs.
Errors inside the result may stand in front of values, and an error stands for values that are not
there, in whose places nil is put. This module follows the errors and the values of a result through
the outputs to the conclusion of the call: if the declared returns can be bound, nothing is lost.

Results:
1. `failures_outputs`, `values_outputs`: what the outputs say of the errors and values of a result.
2. `values_of_answers`, `values_of_none`: where the declared returns can be bound, a result has one
   value, in the first output, or none.
3. `conclude_of_errors`, `conclude_of_no_errors`: what a call concludes from a result.
4. `result_survives`: the whole way from the result to the end of the call.
-/

namespace ScriptBridge

/-- The value of an output, if it has one. -/
def Output.value? : Output → Option Value
  | value v => some v
  | error _ => none

/-- The type of the value that a return declares, if it declares one. -/
def ReturnKind.valueType? : ReturnKind → Option ValueType
  | value type => some type
  | error => none

namespace ResultShape

/-! ## 1. Errors and values of a result -/

/-- The errors that a result has in it, from left to right. An error hides what it stands for. -/
def errors : (r : ResultShape) → r.Carrier → List HostError
  | unit, _ => []
  | value _, _ => []
  | orError result, .ok x => result.errors x
  | orError _, .error e => [e]
  | pair first second, (x, y) => first.errors x ++ second.errors y

/-- The script values that a result has in it, from left to right. -/
def values : (r : ResultShape) → r.Carrier → List Value
  | unit, _ => []
  | value type, x => [type.toValue x]
  | orError result, .ok x => result.values x
  | orError _, .error _ => []
  | pair first second, (x, y) => first.values x ++ second.values y

/-- The host types of the values that a result without an error has in it. -/
def valueTypes : ResultShape → List HostType
  | unit => []
  | value type => [type]
  | orError result => result.valueTypes
  | pair first second => first.valueTypes ++ second.valueTypes

/-- The outputs raise the errors of the result, in the same order. -/
theorem failures_outputs (r : ResultShape) (x : r.Carrier) :
    (r.outputs x).filterMap Output.failure? = r.errors x := by
  induction r with
  | unit => rfl
  | value type => rfl
  | orError result ih =>
    cases x with
    | ok x => simp [outputs, errors, ih, Output.failure?]
    | error e =>
      -- the placeholders of the result raise nothing
      simp [outputs, errors, Output.failure?]
  | pair first second ih₁ ih₂ => simp [outputs, errors, ih₁, ih₂]

theorem mem_errors_iff {r : ResultShape} {x : r.Carrier} {h : HostError} :
    h ∈ r.errors x ↔ r.Raises x h := by
  rw [← raises_iff, ← failures_outputs, List.mem_filterMap]
  constructor
  · rintro ⟨output, member, raised⟩
    cases output with
    | value v => cases raised
    | error raised' =>
      obtain rfl : raised' = some h := raised
      exact member
  · intro member
    exact ⟨_, member, rfl⟩

theorem errors_eq_nil_iff {r : ResultShape} {x : r.Carrier} :
    r.errors x = [] ↔ ∀ h, ¬ r.Raises x h := by
  simp [List.eq_nil_iff_forall_not_mem, mem_errors_iff]

/-- Without an error the outputs have the values of the result, in the same order. -/
theorem values_outputs {r : ResultShape} {x : r.Carrier} (none : r.errors x = []) :
    (r.outputs x).filterMap Output.value? = r.values x := by
  induction r with
  | unit => rfl
  | value type => rfl
  | orError result ih =>
    cases x with
    | ok x => simp [outputs, values, ih none, Output.value?]
    | error e => cases none
  | pair first second ih₁ ih₂ =>
    obtain ⟨left, right⟩ := List.append_eq_nil_iff.mp none
    simp [outputs, values, ih₁ left, ih₂ right]

/-! ## 2. Declared values -/

theorem length_values {r : ResultShape} {x : r.Carrier} (none : r.errors x = []) :
    (r.values x).length = r.valueTypes.length := by
  induction r with
  | unit => rfl
  | value type => rfl
  | orError result ih =>
    cases x with
    | ok x => exact ih none
    | error e => cases none
  | pair first second ih₁ ih₂ =>
    obtain ⟨left, right⟩ := List.append_eq_nil_iff.mp none
    simp [values, valueTypes, ih₁ left, ih₂ right]

theorem valueTypes_of_returns (r : ResultShape) :
    r.returns.filterMap ReturnKind.valueType? = r.valueTypes.map HostType.valueType := by
  induction r with
  | unit => rfl
  | value type => rfl
  | orError result ih => simp [returns, valueTypes, ih, ReturnKind.valueType?]
  | pair first second ih₁ ih₂ => simp [returns, valueTypes, ih₁, ih₂]

end ResultShape

namespace Signature

variable {s : Signature}

theorem valueTypes_of_answers {type : ValueType} (bindable : s.Bindable)
    (answers : s.Answers type) : s.returns.filterMap ReturnKind.valueType? = [type] := by
  rcases returns_of_bindable bindable with ⟨other, same, returns⟩ | ⟨no, _⟩
  · obtain rfl : other = type := by simpa using same.symm.trans answers
    rcases returns with returns | returns <;> rw [returns] <;> rfl
  · exact absurd answers (no type)

theorem valueTypes_of_none (bindable : s.Bindable) (no : ∀ type, ¬ s.Answers type) :
    s.returns.filterMap ReturnKind.valueType? = [] := by
  rcases returns_of_bindable bindable with ⟨type, answers, _⟩ | ⟨_, returns⟩
  · exact absurd answers (no type)
  · rcases returns with returns | returns | returns <;> rw [returns] <;> rfl

end Signature

namespace ResultShape

variable {s : Signature} {r : ResultShape} {x : r.Carrier}

/-- Where bindable returns answer a value, a result without an error has this value only, and it is
the first output. -/
theorem values_of_answers {type : ValueType} (declared : s.returns = r.returns)
    (bindable : s.Bindable) (answers : s.Answers type) (none : r.errors x = []) :
    ∃ t v rest, r.valueTypes = [t] ∧ r.values x = [v] ∧ r.outputs x = .value v :: rest := by
  have types : r.valueTypes.map HostType.valueType = [type] := by
    rw [← r.valueTypes_of_returns, ← declared, Signature.valueTypes_of_answers bindable answers]
  obtain ⟨t, declares, _⟩ := List.map_eq_singleton_iff.mp types
  obtain ⟨behind, first⟩ := List.head?_eq_some_iff.mp answers
  obtain ⟨v, rest, produced, _⟩ := first_accepted (errors_eq_nil_iff.mp none) (declared ▸ first)
  have head : r.values x = v :: rest.filterMap Output.value? := by
    rw [← values_outputs none, produced]
    rfl
  have only : (r.values x).length = 1 := by rw [length_values none, declares, List.length_singleton]
  have last : rest.filterMap Output.value? = [] := by simpa [head] using only
  exact ⟨t, v, rest, declares, by rw [head, last], produced⟩

theorem values_of_none (declared : s.returns = r.returns) (bindable : s.Bindable)
    (no : ∀ type, ¬ s.Answers type) (none : r.errors x = []) :
    r.valueTypes = [] ∧ r.values x = [] := by
  have types : r.valueTypes.map HostType.valueType = [] := by
    rw [← r.valueTypes_of_returns, ← declared, Signature.valueTypes_of_none bindable no]
  have declares : r.valueTypes = [] := List.map_eq_nil_iff.mp types
  have count : (r.values x).length = 0 := by rw [length_values none, declares, List.length_nil]
  exact ⟨declares, List.length_eq_zero_iff.mp count⟩

end ResultShape

/-! ## 3. What is concluded -/

namespace Builtin

variable {b : Builtin} {r : ResultShape} {x : r.Carrier}

/-- The first error of a result ends the call. -/
theorem conclude_of_errors {h : HostError} {rest : List HostError} (some : r.errors x = h :: rest) :
    ∃ e, b.Tells h e ∧ b.conclude (r.outputs x) = .error e := by
  have leftmost : (r.outputs x).findSome? Output.failure? = .some h := by
    rw [← List.head?_filterMap, r.failures_outputs, some, List.head?_cons]
  obtain ⟨before, after, produced, silent⟩ := failure_eq_some_iff.mp leftmost
  rw [produced, conclude_of_raised silent]
  exact ⟨_, b.tells_blame h, rfl⟩

/-- A result without an error is concluded as the one value in it, or as nil if it has none. -/
theorem conclude_of_no_errors (declared : b.signature.returns = r.returns)
    (bindable : b.signature.Bindable) (none : r.errors x = []) :
    (r.valueTypes = [] ∧ r.values x = [] ∧ b.conclude (r.outputs x) = .ok .nil) ∨
    ∃ type v, r.valueTypes = [type] ∧ r.values x = [v] ∧
      b.conclude (r.outputs x) = .ok v := by
  have silent : Silent (r.outputs x) := fun h member =>
    ResultShape.errors_eq_nil_iff.mp none h (ResultShape.raises_iff.mp member)
  have count : (r.outputs x).length = b.signature.returns.length := by
    rw [declared, r.length_outputs]
  by_cases answering : ∃ type, b.signature.Answers type
  · obtain ⟨type, answers⟩ := answering
    obtain ⟨t, v, rest, declares, values, produced⟩ :=
      ResultShape.values_of_answers declared bindable answers none
    obtain ⟨behind, first⟩ := List.head?_eq_some_iff.mp answers
    refine .inr ⟨t, v, declares, values, concludes_iff.mp ?_⟩
    rw [produced] at silent count ⊢
    rw [first] at count
    exact .answered (silent_cons_value.mp silent) first (Nat.succ_inj.mp count)
  · have no : ∀ type, ¬ b.signature.Answers type := not_exists.mp answering
    obtain ⟨declares, values⟩ := ResultShape.values_of_none declared bindable no none
    refine .inl ⟨declares, values, concludes_iff.mp (.empty silent count ?_)⟩
    intro type v answers
    exact absurd answers (no type)

/-! ## 4. Calls -/

/-- The builtin is bound to the typed function: it declares the signature of the function, it was
accepted, and the hook of the function is behind it. -/
structure Runs {m : Type → Type} [Monad m] (b : Builtin) (hooks : Hooks m) (f : TypedFn m) :
    Prop where
  declared : f.signature = .ok b.signature
  bound : Builtin.bind b.name b.fn = .ok b
  behind : hooks b.fn = f.hook

/-- Results of every shape have as many outputs as their shape declares returns. If the returns of a
shape can be bound, then a call of a builtin that is bound to a function with such results, and that
gets to run the function, is settled by the result:
* it ends with an error exactly if the result has an error in it;
* that error is the first one in the order of the outputs, with the name of the builtin attached;
* without an error in the result, the call answers the one value in it, or nil if the shape has no
  values. -/
theorem result_survives :
    (∀ (r : ResultShape) (x : r.Carrier), (r.outputs x).length = r.returns.length) ∧
    ∀ {m : Type → Type} [Monad m] [LawfulMonad m] {b : Builtin} {hooks : Hooks m} {f : TypedFn m}
      {args : List Value} {xs : Args f.params}, b.Runs hooks f → b.argumentError? args = none →
      takeArgs f.params 0 args = .ok xs →
      b.call hooks args = (fun x => b.conclude (f.result.outputs x)) <$> f.body xs ∧
      ∀ x,
        ((∃ e, b.conclude (f.result.outputs x) = .error e) ↔ ∃ h, f.result.Raises x h) ∧
        (∀ h rest, f.result.errors x = h :: rest →
          ∃ e, b.Tells h e ∧ b.conclude (f.result.outputs x) = .error e) ∧
        (f.result.errors x = [] →
          (f.result.valueTypes = [] ∧ f.result.values x = [] ∧
            b.conclude (f.result.outputs x) = .ok .nil) ∨
          ∃ type v, f.result.valueTypes = [type] ∧ f.result.values x = [v] ∧
            b.conclude (f.result.outputs x) = .ok v) := by
  refine ⟨ResultShape.length_outputs, ?_⟩
  intro m _ _ b hooks f args xs runs passed drawn
  have declared : b.signature.returns = f.result.returns :=
    Signature.returns_of_collect runs.declared
  have bindable : b.signature.Bindable := (bindable_of_bind runs.bound).2
  have takes := argumentError?_eq_none_iff.mp passed
  refine ⟨call_of_drawn runs.behind takes drawn, fun x => ⟨⟨?_, ?_⟩, ?_, ?_⟩⟩
  · rintro ⟨e, error⟩
    obtain ⟨h, raised, _⟩ := raises_of_conclude declared error
    exact ⟨h, raised⟩
  · rintro ⟨h, raised⟩
    obtain ⟨first, rest, split⟩ :=
      List.exists_cons_of_ne_nil (List.ne_nil_of_mem (ResultShape.mem_errors_iff.mpr raised))
    obtain ⟨e, _, error⟩ := conclude_of_errors split
    exact ⟨e, error⟩
  · intro h rest some
    exact conclude_of_errors some
  · intro none
    exact conclude_of_no_errors declared bindable none

/-- Answers two errors side by side, the first of them only if it is told to fail. -/
def flushing : TypedFn Id where
  params := [.one .bool]
  result := .pair (.orError .unit) (.orError .unit)
  body := fun (fails, _) =>
    (if fails then .error (.rejected "Pipe" ["mem.File"]) else .ok (), .error (.other "closed"))

theorem flushing_survives :
    let flush : Builtin := ⟨"flush", 0, [.exact .bool], none, [.error, .error]⟩
    flush.Runs (fun _ => flushing.hook) flushing ∧
      flush.argumentError? [.bool true] = none ∧
      takeArgs flushing.params 0 [.bool true] = .ok (true, ()) ∧
      flush.call (fun _ => flushing.hook) [.bool true] =
        .error (.argumentType "flush" none "Pipe" ["mem.File"] flush.render) := by
  intro flush
  have runs : flush.Runs (fun _ => flushing.hook) flushing := ⟨rfl, rfl, rfl⟩
  have passed : flush.argumentError? [.bool true] = none := by decide
  have drawn : takeArgs flushing.params 0 [.bool true] = .ok (true, ()) := rfl
  let result : flushing.result.Carrier :=
    (.error (.rejected "Pipe" ["mem.File"]), .error (.other "closed"))
  obtain ⟨called, settled⟩ := result_survives.2 runs passed drawn
  obtain ⟨e, told, error⟩ := (settled result).2.1 _ _ rfl
  cases told
  exact ⟨runs, passed, drawn, called.trans error⟩

end Builtin

end ScriptBridge
