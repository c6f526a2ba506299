import ScriptBridge.Host.Result
import ScriptBridge.Proofs.Conclusion
import ScriptBridge.Proofs.EngineChange

/-!
# What is rendered and what is answered

The returns of a function are looked at in three places: when the function is bound, when its
signature is rendered, and when a call is concluded. For a function that was bound they agree. A
first return that is a value is what is shown, and it is what a call may answer; a function without
one is shown as `()`, and its calls answer nil or an error. The exception is a function with two
errors in a row: it can be bound, and its calls answer nil or an error, but it is shown as what
cannot be bound, with all returns listed.

Results:
1. `returnNames_of_answers`, `returnNames_of_none`: the returns of a bindable signature, as they are
   shown.
2. `call_forgets_value`: what a function without a value is called for.
3. `render_of_bind`: the line of a bound function and the answers of its calls.
-/

namespace ScriptBridge

/-! ## 1. Shown returns -/

namespace Signature

/-- The canonical line up to the returns. -/
def heading (name : String) (s : Signature) : String :=
  name ++ " :: " ++ if s.paramNames.isEmpty then "" else arrows s.paramNames ++ " => "

theorem render_eq (name : String) (s : Signature) :
    s.render name = s.heading name ++ arrows (returnNames s.returns) := rfl

/-- The first return is a value of this type. -/
def Answers (s : Signature) (type : ValueType) : Prop := s.returns.head? = some (.value type)

/-- What a bindable signature may declare. -/
theorem returns_of_bindable {s : Signature} (bindable : s.Bindable) :
    (∃ type, s.Answers type ∧ (s.returns = [.value type] ∨ s.returns = [.value type, .error])) ∨
    ((∀ type, ¬ s.Answers type) ∧
      (s.returns = [] ∨ s.returns = [.error] ∨ s.returns = [.error, .error])) := by
  obtain ⟨count, second⟩ := bindable
  unfold Answers
  match returns : s.returns with
  | [] => exact .inr ⟨by simp, .inl rfl⟩
  | [.error] => exact .inr ⟨by simp, .inr (.inl rfl)⟩
  | [.value type] => exact .inl ⟨type, rfl, .inl rfl⟩
  | [first, kind] =>
    rw [returns] at second
    obtain rfl := second kind rfl
    cases first with
    | value type => exact .inl ⟨type, rfl, .inr rfl⟩
    | error => exact .inr ⟨by simp, .inr (.inr rfl)⟩
  | _ :: _ :: _ :: _ =>
    rw [returns] at count
    simp at count

theorem returnNames_of_answers {s : Signature} {type : ValueType} (bindable : s.Bindable)
    (answers : s.Answers type) : returnNames s.returns = [type.name] := by
  rcases returns_of_bindable bindable with ⟨other, same, returns⟩ | ⟨none, _⟩
  · have : some (ReturnKind.value other) = some (.value type) := same.symm.trans answers
    cases this
    rcases returns with returns | returns <;> rw [returns] <;> rfl
  · exact absurd answers (none type)

theorem returnNames_of_none {s : Signature} (bindable : s.Bindable)
    (none : ∀ type, ¬ s.Answers type) (single : s.returns ≠ [.error, .error]) :
    returnNames s.returns = ["()"] := by
  rcases returns_of_bindable bindable with ⟨type, answers, _⟩ | ⟨_, returns | returns | returns⟩
  · exact absurd answers (none type)
  · rw [returns]
    rfl
  · rw [returns]
    rfl
  · exact absurd returns single

end Signature

/-! ## 2. Calls -/

namespace Builtin

/-- Without a value as first return no outputs conclude anything but nil or an error. -/
theorem nil_of_conclude {b : Builtin} {outputs : List Output} {v : Value}
    (none : ∀ type, ¬ b.signature.Answers type) (answered : b.conclude outputs = .ok v) :
    v = .nil := by
  rcases conclude_cases b outputs with
    ⟨_, _, told⟩ | ⟨_, ⟨_, told⟩ | ⟨type, _, returns, _, first, _, _⟩ | ⟨_, told⟩⟩
  · rw [told] at answered
    cases answered
  · rw [told] at answered
    cases answered
  · refine absurd ?_ (none type)
    rw [Signature.Answers, first]
    rfl
  · rw [told] at answered
    cases answered
    rfl

/-- What a call answers is not changed if nil is put for every value. -/
theorem call_forgets_value {m : Type → Type} [Monad m] [LawfulMonad m] {b : Builtin}
    (none : ∀ type, ¬ b.signature.Answers type) (hooks : Hooks m) (args : List Value) :
    (Except.map fun _ => Value.nil) <$> b.call hooks args = b.call hooks args := by
  have same (outputs : List Output) :
      (b.conclude outputs).map (fun _ => Value.nil) = b.conclude outputs := by
    cases concluded : b.conclude outputs with
    | error e => rfl
    | ok v => rw [nil_of_conclude none concluded, Except.map]
  unfold call
  cases b.argumentError? args with
  | some e => exact map_pure _ _
  | none => simp [same]

/-! ## 3. Bound functions -/

/-- The line of a function that was bound, and the answers of its calls. If the first return is a
value, its type is all that is shown of the returns. Otherwise a call answers nil or an error,
whatever the hooks and the arguments are, and `()` is shown, unless the function declares two errors
in a row: then it is shown with both of them. -/
theorem render_of_bind {name : String} {fn : HostFn} {b : Builtin}
    (bound : Builtin.bind name fn = .ok b) :
    (∀ type, b.signature.returns.head? = some (.value type) →
      b.render = b.signature.heading name ++ type.name) ∧
    ((∀ type, b.signature.returns.head? ≠ some (.value type)) →
      (∀ {m : Type → Type} [Monad m] [LawfulMonad m] (hooks : Hooks m) (args : List Value),
        (Except.map fun _ => Value.nil) <$> b.call hooks args = b.call hooks args) ∧
      (b.signature.returns ≠ [.error, .error] → b.render = b.signature.heading name ++ "()") ∧
      (b.signature.returns = [.error, .error] →
        b.render = b.signature.heading name ++ "error -> error")) := by
  obtain ⟨rfl, bindable⟩ := bindable_of_bind bound
  have line : b.render = b.signature.heading b.name ++
      Signature.arrows (Signature.returnNames b.signature.returns) :=
    Signature.render_eq b.name b.signature
  refine ⟨?_, fun none => ⟨call_forgets_value none, ?_, ?_⟩⟩
  · intro type answers
    rw [line, Signature.returnNames_of_answers bindable answers]
    rfl
  · intro single
    rw [line, Signature.returnNames_of_none bindable none single]
    rfl
  · intro returns
    rw [line, returns]
    rfl

/-- A function that answers nothing or an error is bound and rendered. -/
theorem close_rendered :
    let fn : HostFn := ⟨0, [.exact .int], none, (ResultShape.orError .unit).returns⟩
    Builtin.bind "close" fn = .ok ⟨"close", fn⟩ ∧
      (⟨"close", fn⟩ : Builtin).render = "close :: int => ()" := by
  intro fn
  have bound : Builtin.bind "close" fn = .ok ⟨"close", fn⟩ := rfl
  obtain ⟨_, without⟩ := render_of_bind bound
  obtain ⟨_, unit, _⟩ := without (by rintro type ⟨⟩)
  refine ⟨bound, (unit (by decide)).trans ?_⟩
  rfl

/-- A function that answers nothing, an error, or an error in its place declares two errors in a row.
It is bound, and all its returns are listed. -/
theorem flush_listed :
    let fn : HostFn := ⟨0, [], none, (ResultShape.orError (.orError .unit)).returns⟩
    Builtin.bind "flush" fn = .ok ⟨"flush", fn⟩ ∧
      (⟨"flush", fn⟩ : Builtin).signature.returns.head? = some .error ∧
      (⟨"flush", fn⟩ : Builtin).render = "flush :: error -> error" ∧
      (⟨"flush", fn⟩ : Builtin).render ≠ "flush :: ()" := by
  intro fn
  have rendered : (⟨"flush", fn⟩ : Builtin).render = "flush :: error -> error" := by
    decide +kernel
  refine ⟨rfl, rfl, rendered, ?_⟩
  rw [rendered]
  decide

end Builtin

end ScriptBridge
