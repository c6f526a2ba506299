import ScriptBridge.Proofs.Conclusion

/-!
# The check of the arguments

A call of a builtin first looks at the number of the arguments, then at their types from left to
right, and runs the host function only if nothing is wrong with them. Here the check is told by
positions: `Signature.WrongCount` and `Signature.Refuses` say what is wrong with an argument list
without saying how it is searched.

Results:
1. `refused?_eq_none_iff`, `refused?_least`: the search from left to right finds the least refused
   position, if there is one.
2. `argumentError?_eq_none_iff`: the check passes exactly the lists that the signature takes.
3. `call_settled_by_arguments`: what a call answers, and when the host function runs.
-/

namespace ScriptBridge

/-! ## What may be wrong with the arguments -/

namespace Signature

/-- The number of arguments is not the number of parameters or, for a variadic function, is smaller
than the number of its leading parameters. -/
def WrongCount (s : Signature) (count : Nat) : Prop :=
  (s.variadic = none ∧ count ≠ s.params.length) ∨ (s.variadic ≠ none ∧ count < s.params.length)

/-- `s.Expects i type`: the argument at position `i` is held to `type`, which is the parameter at
that position or, behind the leading parameters, the element type. -/
def Expects (s : Signature) (i : Nat) (type : ValueType) : Prop :=
  (i < s.params.length ∧ s.params[i]? = some type) ∨
  (s.params.length ≤ i ∧ s.variadic = some type)

/-- `s.Refuses args i type v`: the argument at position `i` is `v`, it is held to `type`, and `type`
does not accept it. -/
structure Refuses (s : Signature) (args : List Value) (i : Nat) (type : ValueType) (v : Value) :
    Prop where
  found : args[i]? = some v
  expected : s.Expects i type
  unaccepted : type.accepts v = false

/-- A call with these arguments gets past the check: their number fits and none is refused. -/
def Takes (s : Signature) (args : List Value) : Prop :=
  ¬ s.WrongCount args.length ∧ ∀ i type v, ¬ s.Refuses args i type v

theorem admits_eq_false_iff (s : Signature) (count : Nat) :
    s.admits count = false ↔ s.WrongCount count := by
  unfold admits WrongCount isVariadic arity
  cases s.variadic <;> simp

theorem expected?_eq_some_iff {s : Signature} {i : Nat} {type : ValueType} :
    s.expected? i = some type ↔ s.Expects i type := by
  unfold expected? Expects
  rcases Nat.lt_or_ge i s.params.length with leading | behind
  · have front : ¬ s.params.length ≤ i := Nat.not_le_of_lt leading
    simp [leading, front]
  · have past : ¬ i < s.params.length := Nat.not_lt_of_le behind
    simp [behind, past]

/-- If a position has no type then no later position has one. -/
theorem expected?_eq_none_of_le {s : Signature} {i j : Nat} (before : i ≤ j)
    (untyped : s.expected? i = none) : s.expected? j = none := by
  unfold expected? at *
  rcases Nat.lt_or_ge i s.params.length with leading | behind
  · simp [leading] at untyped
  · have past : s.params.length ≤ j := Nat.le_trans behind before
    rw [List.getElem?_eq_none behind] at untyped
    rw [List.getElem?_eq_none past]
    exact untyped

/-- When the number of arguments fits, every one of them is held to some type. -/
theorem expects_of_rightCount {s : Signature} {count i : Nat} (right : ¬ s.WrongCount count)
    (passed : i < count) : ∃ type, s.Expects i type := by
  rcases Nat.lt_or_ge i s.params.length with leading | behind
  · exact ⟨s.params[i], .inl ⟨leading, List.getElem?_eq_getElem leading⟩⟩
  · cases variadic : s.variadic with
    | some element => exact ⟨element, .inr ⟨behind, variadic⟩⟩
    | none =>
      -- nothing is behind the parameters, so there is an argument too many
      refine absurd (.inl ⟨variadic, ?_⟩) right
      omega

/-- No argument is refused when each is accepted by the type it is held to. -/
theorem not_refuses_iff {s : Signature} {args : List Value} :
    (∀ i type v, ¬ s.Refuses args i type v) ↔
      ∀ i v type, args[i]? = some v → s.Expects i type → type.accepts v = true := by
  constructor
  · intro none i v type found expected
    cases accepted : type.accepts v with
    | true => rfl
    | false => exact absurd ⟨found, expected, accepted⟩ (none i type v)
  · rintro accepted i type v ⟨found, expected, unaccepted⟩
    rw [accepted i v type found expected] at unaccepted
    cases unaccepted

/-- The arguments that are taken are accepted one by one. -/
theorem accepted_of_takes {s : Signature} {args : List Value} (takes : s.Takes args) {i : Nat}
    {v : Value} (found : args[i]? = some v) :
    ∃ type, s.Expects i type ∧ type.accepts v = true := by
  obtain ⟨right, none⟩ := takes
  obtain ⟨passed, _⟩ := List.getElem?_eq_some_iff.mp found
  obtain ⟨type, expected⟩ := expects_of_rightCount right passed
  exact ⟨type, expected, not_refuses_iff.mp none i v type found expected⟩

end Signature

/-! ## 1. The search for a refused argument -/

namespace Builtin

open Signature

/-- The search comes to its end when every argument is accepted at its position. -/
theorem refused?_eq_none_iff {s : Signature} {place : Nat} {args : List Value} :
    refused? s place args = none ↔
      ∀ k v type, args[k]? = some v → s.expected? (place + k) = some type →
        type.accepts v = true := by
  induction args generalizing place with
  | nil => simp [refused?]
  | cons v args ih =>
    have later (k : Nat) : place + 1 + k = place + (k + 1) := by omega
    unfold refused?
    cases typed : s.expected? place with
    | none =>
      -- behind the typed positions nothing is held to a type
      have untyped (k : Nat) : s.expected? (place + k) = none :=
        expected?_eq_none_of_le (Nat.le_add_right _ _) typed
      simp [untyped]
    | some type =>
      by_cases accepted : type.accepts v = true
      · simp only [accepted, if_true, ih, later]
        constructor
        · intro rest k u t found expected
          cases k with
          | zero =>
            cases found
            rw [Nat.add_zero, typed] at expected
            cases expected
            exact accepted
          | succ k => exact rest k u t found expected
        · intro all k u t found expected
          exact all (k + 1) u t found expected
      · simp only [accepted, Bool.false_eq_true, if_false, reduceCtorEq, false_iff]
        intro all
        exact accepted (all 0 v type rfl typed)

/-- What the search finds is refused, and everything in front of it is accepted. -/
theorem refused?_least {s : Signature} {place i : Nat} {args : List Value} {type : ValueType}
    {v : Value} (found : refused? s place args = some (i, type, v)) :
    ∃ k, i = place + k ∧ args[k]? = some v ∧ s.expected? i = some type ∧ type.accepts v = false ∧
      ∀ j < k, ∀ u t, args[j]? = some u → s.expected? (place + j) = some t →
        t.accepts u = true := by
  induction args generalizing place with
  | nil => cases found
  | cons u args ih =>
    unfold refused? at found
    cases typed : s.expected? place with
    | none =>
      rw [typed] at found
      cases found
    | some t =>
      rw [typed] at found
      by_cases accepted : t.accepts u = true
      · -- the search goes on, one place further
        simp only [accepted, if_true] at found
        obtain ⟨k, rfl, here, expected, unaccepted, before⟩ := ih found
        refine ⟨k + 1, by omega, here, expected, unaccepted, ?_⟩
        intro j hj w t' hw ht
        cases j with
        | zero =>
          cases hw
          rw [Nat.add_zero, typed] at ht
          cases ht
          exact accepted
        | succ j =>
          rw [show place + (j + 1) = place + 1 + j by omega] at ht
          exact before j (by omega) w t' hw ht
      · simp only [accepted, Bool.false_eq_true, if_false] at found
        cases found
        refine ⟨0, rfl, rfl, typed, by simpa using accepted, ?_⟩
        intro j hj
        exact absurd hj (Nat.not_lt_zero j)

/-- The search from the first argument on misses no refused one. -/
theorem refused?_eq_none_iff_not_refuses {s : Signature} {args : List Value} :
    refused? s 0 args = none ↔ ∀ i type v, ¬ s.Refuses args i type v := by
  rw [refused?_eq_none_iff, not_refuses_iff]
  simp only [Nat.zero_add, expected?_eq_some_iff]

/-- The search from the first argument on ends at the least refused position. -/
theorem refuses_of_refused? {s : Signature} {args : List Value} {i : Nat} {type : ValueType}
    {v : Value} (found : refused? s 0 args = some (i, type, v)) :
    s.Refuses args i type v ∧ ∀ j < i, ∀ t u, ¬ s.Refuses args j t u := by
  obtain ⟨k, rfl, here, expected, unaccepted, before⟩ := refused?_least found
  rw [Nat.zero_add] at expected ⊢
  refine ⟨⟨here, expected?_eq_some_iff.mp expected, unaccepted⟩, ?_⟩
  intro j hj t u refused
  have expected' := expected?_eq_some_iff.mpr refused.expected
  have accepts := before j hj u t refused.found (by rwa [Nat.zero_add])
  rw [refused.unaccepted] at accepts
  cases accepts

/-! ## 2. The check -/

theorem argumentError?_of_wrongCount {b : Builtin} {args : List Value}
    (wrong : b.signature.WrongCount args.length) :
    b.argumentError? args = some (.argumentCount b.name b.render) := by
  simp [argumentError?, (admits_eq_false_iff _ _).mpr wrong]

theorem argumentError?_of_rightCount {b : Builtin} {args : List Value}
    (right : ¬ b.signature.WrongCount args.length) :
    b.argumentError? args = (refused? b.signature 0 args).map fun (place, type, v) =>
      .argumentType b.name (some place) v.typeName [type.name] b.render := by
  cases admitted : b.signature.admits args.length with
  | true => simp [argumentError?, admitted]
  | false => exact absurd ((admits_eq_false_iff _ _).mp admitted) right

theorem argumentError?_eq_none_iff {b : Builtin} {args : List Value} :
    b.argumentError? args = none ↔ b.signature.Takes args := by
  by_cases wrong : b.signature.WrongCount args.length
  · simp [argumentError?_of_wrongCount wrong, Takes, wrong]
  · simp [argumentError?_of_rightCount wrong, Takes, wrong, refused?_eq_none_iff_not_refuses]

/-! ## 3. Calls -/

/-- The call ends with the error `e` whatever the host function is: so does every call of a builtin
of the same name and signature, with any hooks. -/
def RefusedWith (b : Builtin) (args : List Value) (e : CallError) : Prop :=
  ∀ (m : Type → Type) [Monad m] (hooks : Hooks m) (other : Builtin),
    other.name = b.name → other.signature = b.signature →
    other.call hooks args = pure (.error e)

theorem refusedWith_of_argumentError? {b : Builtin} {args : List Value} {e : CallError}
    (error : b.argumentError? args = some e) : b.RefusedWith args e := by
  intro m _ hooks other sameName sameSignature
  have same : other.argumentError? args = b.argumentError? args := by
    unfold argumentError? render
    rw [sameName, sameSignature]
  unfold call
  rw [same, error]

end Builtin

/-- The hooks, with a list of the calls they get, in order. -/
def Hooks.noted {m : Type → Type} [Monad m] (hooks : Hooks m) :
    Hooks (StateT (List (HostFn × List Value)) m) := fun fn args calls => do
  let outputs ← hooks fn args
  return (outputs, calls ++ [(fn, args)])

namespace Builtin

theorem call_of_takes {m : Type → Type} [Monad m] [LawfulMonad m] {b : Builtin} {args : List Value}
    (takes : b.signature.Takes args) (hooks : Hooks m) :
    b.call hooks args = b.conclude <$> hooks b.fn args := by
  unfold call
  rw [argumentError?_eq_none_iff.mpr takes]
  exact bind_pure_comp _ _

/-- With the calls noted, a call whose arguments are taken is seen to run the host function once. -/
theorem call_noted_of_takes {m : Type → Type} [Monad m] [LawfulMonad m] {b : Builtin}
    {args : List Value} (takes : b.signature.Takes args) (hooks : Hooks m)
    (calls : List (HostFn × List Value)) :
    b.call hooks.noted args calls =
      (fun outputs => (b.conclude outputs, calls ++ [(b.fn, args)])) <$> hooks b.fn args := by
  rw [call_of_takes takes]
  change (hooks b.fn args >>= fun outputs => pure (outputs, calls ++ [(b.fn, args)])) >>=
    (fun result => pure (b.conclude result.1, result.2)) = _
  simp only [bind_pure_comp, Functor.map_map]

/-- The arguments settle what a call does. If their number is wrong, it ends with that error. If the
number fits and some are refused, it ends with an error about the least refused position, which
names the position, the type that was passed and the type that is expected. In both cases the host
function plays no part. In every other case each argument is accepted at its position, the host
function runs once, on the very same arguments, and the result is concluded from its outputs; it is
no error about the number of arguments. -/
theorem call_settled_by_arguments (b : Builtin) (args : List Value) :
    (b.signature.WrongCount args.length →
      b.RefusedWith args (.argumentCount b.name b.render)) ∧
    (¬ b.signature.WrongCount args.length →
      (∃ i type v, b.signature.Refuses args i type v) →
      ∃ i type v, b.signature.Refuses args i type v ∧
        (∀ j < i, ∀ t u, ¬ b.signature.Refuses args j t u) ∧
        b.RefusedWith args
          (.argumentType b.name (some i) v.typeName [type.name] b.render)) ∧
    (¬ b.signature.WrongCount args.length → (∀ i type v, ¬ b.signature.Refuses args i type v) →
      (∀ i v, args[i]? = some v →
        ∃ type, b.signature.Expects i type ∧ type.accepts v = true) ∧
      (∀ (m : Type → Type) [Monad m] [LawfulMonad m] (hooks : Hooks m),
        b.call hooks args = b.conclude <$> hooks b.fn args ∧
        ∀ calls, b.call hooks.noted args calls =
          (fun outputs => (b.conclude outputs, calls ++ [(b.fn, args)])) <$> hooks b.fn args) ∧
      ∀ outputs name signature,
        b.conclude outputs ≠ .error (.argumentCount name signature)) := by
  refine ⟨?_, ?_, ?_⟩
  · intro wrong
    exact refusedWith_of_argumentError? (argumentError?_of_wrongCount wrong)
  · intro right some
    cases found : refused? b.signature 0 args with
    | none =>
      obtain ⟨i, type, v, refused⟩ := some
      exact absurd refused (refused?_eq_none_iff_not_refuses.mp found i type v)
    | some first =>
      obtain ⟨i, type, v⟩ := first
      obtain ⟨refused, least⟩ := refuses_of_refused? found
      refine ⟨i, type, v, refused, least, refusedWith_of_argumentError? ?_⟩
      rw [argumentError?_of_rightCount right, found]
      rfl
  · intro right none
    have takes : b.signature.Takes args := ⟨right, none⟩
    exact ⟨fun i v found => Signature.accepted_of_takes takes found,
      fun m _ _ hooks => ⟨call_of_takes takes hooks, call_noted_of_takes takes hooks⟩,
      conclude_ne_argumentCount b⟩

/-- Takes a label and any number of integers. -/
def sum : Builtin :=
  ⟨"sum", 0, [.exact .string], some (.exact .int), [.value (.exact .int)]⟩

theorem sum_settled_by_arguments :
    let args := [.string "total", .int 1, .string "two"]
    sum.signature.Refuses args 2 (.exact .int) (.string "two") ∧
    ∃ i type v, sum.signature.Refuses args i type v ∧
      sum.RefusedWith args (.argumentType "sum" (some i) v.typeName [type.name] sum.render) := by
  intro args
  have refused : sum.signature.Refuses args 2 (.exact .int) (.string "two") :=
    ⟨rfl, .inr ⟨by decide, rfl⟩, by decide⟩
  have right : ¬ sum.signature.WrongCount args.length := by
    simp [Signature.WrongCount, sum, signature, args]
  obtain ⟨i, type, v, first, _, told⟩ :=
    (call_settled_by_arguments sum args).2.1 right ⟨2, .exact .int, .string "two", refused⟩
  exact ⟨refused, i, type, v, first, told⟩

end Builtin

end ScriptBridge
