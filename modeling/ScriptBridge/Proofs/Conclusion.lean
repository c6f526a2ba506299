import ScriptBridge.Builtin.Basic

/-!
# What a call concludes from outputs

`Builtin.conclude` makes one value or one error of the outputs of a host function.
`Builtin.conclude_cases` lists everything it can do; the other lemmas read off it which errors it
tells.
-/

namespace ScriptBridge

/-- An error that some output raises stands among the outputs. -/
theorem mem_of_failure {outputs : List Output} {h : HostError}
    (raised : outputs.findSome? Output.failure? = some h) : .error (some h) ∈ outputs := by
  obtain ⟨output, member, failure⟩ := List.exists_of_findSome?_eq_some raised
  cases output with
  | value v => cases failure
  | error raised => exact (show raised = some h from failure) ▸ member

/-- If no output raises an error then none stands among them. -/
theorem notMem_of_silent {outputs : List Output}
    (silent : outputs.findSome? Output.failure? = none) (h : HostError) :
    .error (some h) ∉ outputs := by
  intro member
  have failure := List.findSome?_eq_none_iff.mp silent _ member
  cases failure

namespace Builtin

/-- A call ends with the leftmost raised error. Without one it ends with an error if the number of
outputs is not the declared one, and otherwise with the first output where a value is declared there
and produced, or with nil. -/
theorem conclude_cases (b : Builtin) (outputs : List Output) :
    (∃ h, .error (some h) ∈ outputs ∧ b.conclude outputs = .error (b.blame h)) ∨
    ((∀ h, .error (some h) ∉ outputs) ∧
      ((outputs.length ≠ b.signature.returns.length ∧ b.conclude outputs =
        .error (.outputCount b.name b.signature.returns.length outputs.length)) ∨
      (∃ type v returns rest, b.signature.returns = .value type :: returns ∧
        outputs = .value v :: rest ∧ b.conclude outputs = .ok v) ∨
      ((∀ type v, b.signature.returns.head? = some (.value type) →
        outputs.head? ≠ some (.value v)) ∧ b.conclude outputs = .ok .nil))) := by
  unfold conclude
  cases raised : outputs.findSome? Output.failure? with
  | some h => exact .inl ⟨h, mem_of_failure raised, rfl⟩
  | none =>
    refine .inr ⟨notMem_of_silent raised, ?_⟩
    by_cases count : outputs.length = b.signature.returns.length
    · simp only [count, ne_eq, not_true_eq_false, if_false]
      match declared : b.signature.returns, produced : outputs with
      | .value type :: returns, .value v :: rest =>
        exact .inr (.inl ⟨type, v, returns, rest, rfl, rfl, rfl⟩)
      | [], _ => exact .inr (.inr ⟨by simp, by simp⟩)
      | .error :: _, _ => exact .inr (.inr ⟨by simp, by simp⟩)
      | .value _ :: _, [] => exact .inr (.inr ⟨by simp, by simp⟩)
      | .value _ :: _, .error _ :: _ => exact .inr (.inr ⟨by simp, by simp⟩)
    · exact .inl ⟨count, by simp [count]⟩

/-- An error of the host function is never told as a wrong number of arguments. -/
theorem blame_ne_argumentCount (b : Builtin) (h : HostError) (name signature : String) :
    b.blame h ≠ .argumentCount name signature := by
  cases h <;> simp [blame]

/-- Nor as a wrong number of outputs. -/
theorem blame_ne_outputCount (b : Builtin) (h : HostError) (name : String)
    (declared produced : Nat) : b.blame h ≠ .outputCount name declared produced := by
  cases h <;> simp [blame]

/-- An error of the host function is told as a conversion error only if it is one. -/
theorem eq_conversion_of_blame {b : Builtin} {h : HostError} {e : ConversionError}
    (told : b.blame h = .host (.conversion e)) : h = .conversion e := by
  cases h <;> cases told
  rfl

/-- Once the host function has run, the number of arguments is not complained of any more. -/
theorem conclude_ne_argumentCount (b : Builtin) (outputs : List Output) (name signature : String) :
    b.conclude outputs ≠ .error (.argumentCount name signature) := by
  intro wrong
  rcases conclude_cases b outputs with
    ⟨h, _, told⟩ | ⟨_, ⟨_, told⟩ | ⟨_, _, _, _, _, _, told⟩ | ⟨_, told⟩⟩ <;> rw [told] at wrong
  · exact blame_ne_argumentCount b h name signature (Except.error.inj wrong)
  · cases wrong
  · cases wrong
  · cases wrong

end Builtin

end ScriptBridge
