import ScriptBridge.Proofs.ArgumentCheck
import ScriptBridge.Proofs.Conversions
import ScriptBridge.Proofs.UncheckedCall

/-!
# Calls of typed host functions

The signature of a typed host function is collected from its parameters, the arguments of a call are
checked against that signature, and only then drawn from the list one parameter after the other. The
check goes by the type that an argument shows. If no object among the arguments shows a type that it is
not of (`Value.Genuine`), what passes the check is drawn, all of it, with one exception: a parameter for
objects, whose host type shows the type of integers, say, is passed an integer (`Disguised`). The first
such argument is refused when it is drawn, and the function does not run.

Results:
1. `expects_of_receiver`: the check holds an argument to the type that its parameter declares;
   `disguised_of_refused`, `not_disguised_of_converts`: what passes the check and is not converted.
2. `raises_of_conclude`, `accepts_of_conclude`: what a call concludes from the outputs of a result;
   `conclude_refusal`: what it concludes from a function that has not run.
3. `typed_call_sound`: a call of a typed host function from the check to the conclusion;
   `integer_not_redeemed`: an integer that is taken for an object and not drawn.
-/

namespace ScriptBridge

/-! ## 1. Arguments that pass the check -/

/-- The types of the values that are no host objects. -/
def TypeId.builtins : List TypeId :=
  [.nil, .bool, .int, .int16, .int32, .int64, .float32, .float64, .string, .bytes, .list, .func]

/-- If the value is an object, it shows no type that it is not of: no built-in type, and the type of
one of the given host types only if it is of this host type. -/
structure Value.Genuine (classes : List HostClass) (v : Value) : Prop where
  not_builtin : ∀ o, v = .object o → o.cls.typeId ∉ TypeId.builtins
  of_class : ∀ o, v = .object o → ∀ c ∈ classes, o.cls.typeId = c.typeId → o.cls = c

theorem Value.Genuine.mono {classes more : List HostClass} {v : Value} (genuine : v.Genuine more)
    (sub : classes ⊆ more) : v.Genuine classes :=
  ⟨genuine.not_builtin, fun o object c member => genuine.of_class o object c (sub member)⟩

/-- The host type whose objects the parameter takes, if it takes objects. -/
def Param.hostClass? : Param → Option HostClass
  | one type => type.hostClass?
  | meeting _ => none
  | rest element => element.hostClass?

/-- The host types whose objects some parameters take. -/
def hostClasses (params : List Param) : List HostClass :=
  params.flatMap fun p => p.hostClass?.toList

/-- The argument at position `i` is no object and passes for one: the parameter that it goes to takes
the objects of a host type that shows the type of the argument. -/
def Disguised (params : List Param) (args : List Value) (i : Nat) : Prop :=
  ∃ p cls v, receiver? params i = some p ∧ args[i]? = some v ∧ p.hostClass? = some cls ∧
    (∀ o, v ≠ .object o) ∧ v.typeId = cls.typeId

section Check

variable {t : HostType} {p : Param} {params : List Param} {s : Signature} {v : Value}
  {args : List Value} {i k : Nat} {e : ConversionError}

/-- A genuine value that a host type accepts and does not read is no object, while the host type is
one for objects. The error names one type twice. -/
theorem HostType.disguise_of_refused (accepted : t.valueType.accepts v = true)
    (genuine : v.Genuine t.hostClass?.toList) (refused : t.fromValue v = .error e) :
    (∃ cls, t.hostClass? = some cls ∧ (∀ o, v ≠ .object o) ∧ v.typeId = cls.typeId) ∧
      e = .mismatch v.typeName v.typeName := by
  have told := (fromValue_eq_error_iff.mp refused).2
  cases accepts_and_unread_iff.mp ⟨accepted, e, refused⟩ with
  | @impostor _ o declared other =>
    cases t with
    | any => cases declared
    | object cls =>
      have shown : cls.typeId = o.cls.typeId := ValueType.exact.inj declared
      have own := genuine.of_class o rfl cls (List.mem_singleton_self cls) shown.symm
      exact absurd (congrArg some own.symm) other
    | _ =>
      have builtin := genuine.not_builtin o rfl
      rw [← ValueType.exact.inj declared] at builtin
      simp [TypeId.builtins] at builtin
  | @disguise cls _ noObject shown =>
    have named : v.typeName = cls.typeId.name := congrArg TypeId.name shown
    refine ⟨⟨cls, rfl, noObject, shown⟩, ?_⟩
    rw [told, named]
    rfl

/-- Nor does a parameter convert what its host type does not read. -/
theorem Param.disguise_of_refused (accepted : p.valueType.accepts v = true)
    (genuine : v.Genuine p.hostClass?.toList) (refused : p.convert v = .error e) :
    (∃ cls, p.hostClass? = some cls ∧ (∀ o, v ≠ .object o) ∧ v.typeId = cls.typeId) ∧
      e = .mismatch v.typeName v.typeName := by
  cases p with
  | one type => exact HostType.disguise_of_refused accepted genuine refused
  | rest element => exact HostType.disguise_of_refused accepted genuine refused
  | meeting interface =>
    have met : interface.meet v = .ok ⟨v, accepted⟩ := dif_pos accepted
    cases met.symm.trans refused

/-- A parameter for objects converts nothing else. -/
theorem Param.object_of_converts {cls : HostClass} {x : p.Item} (taken : p.hostClass? = some cls)
    (converted : p.convert v = .ok x) : ∃ o, v = .object o := by
  have reads {t : HostType} {x : t.Carrier} (taken : t.hostClass? = some cls)
      (read : t.fromValue v = .ok x) : ∃ o, v = .object o := by
    cases t with
    | object _ => exact ⟨x.ref, HostType.fromValue_eq_ok_iff.mp read⟩
    | _ => cases taken
  cases p with
  | one type => exact reads taken converted
  | rest element => exact reads taken converted
  | meeting interface => cases taken

theorem Signature.taken_of_rightCount (right : ¬ s.WrongCount args.length) : s.taken args = args := by
  unfold taken
  cases variadic : s.variadic with
  | some element => exact if_pos (by simp [isVariadic, variadic])
  | none =>
    have count : args.length = s.arity := by
      by_contra other
      exact right (.inl ⟨variadic, other⟩)
    rw [← count, List.take_length, ite_self]

theorem Signature.arity_le_of_rightCount {count : Nat} (right : ¬ s.WrongCount count) :
    s.arity ≤ count := by
  by_contra few
  rw [Nat.not_le] at few
  cases variadic : s.variadic with
  | some element => exact right (.inr ⟨by simp [variadic], few⟩)
  | none => exact right (.inl ⟨variadic, Nat.ne_of_lt few⟩)

/-- The check holds an argument to the type that its parameter declares. -/
theorem expects_of_receiver {count position : Nat} {returns : List ReturnKind}
    (collected : Signature.collect count returns position (params.map Param.form) = .ok s)
    (receives : receiver? params i = some p) : s.Expects i p.valueType := by
  induction params generalizing position i s with
  | nil => cases receives
  | cons q params ih =>
    cases single : q.isRest with
    | true =>
      cases q with
      | rest element =>
        obtain ⟨_, rfl⟩ := Signature.collect_rest_iff.mp collected
        cases receives
        exact .inr ⟨Nat.zero_le _, rfl⟩
      | _ => cases single
    | false =>
      rw [List.map_cons, Param.form_of_single single] at collected
      obtain ⟨behind, tail, rfl⟩ := Signature.collect_single_iff.mp collected
      cases i with
      | zero =>
        rw [receiver?_cons_zero] at receives
        cases receives
        exact .inl ⟨Nat.succ_pos _, rfl⟩
      | succ i =>
        rw [receiver?_cons_succ single] at receives
        have held := ih tail receives
        simpa [Signature.Expects] using held

/-- Of genuine arguments that pass the check only a disguised one is refused when it is drawn. -/
theorem disguised_of_refused {count position : Nat} {returns : List ReturnKind}
    (collected : Signature.collect count returns position (params.map Param.form) = .ok s)
    (takes : s.Takes args) (genuine : ∀ v ∈ args, v.Genuine (hostClasses params))
    (refused : FirstRefused params args i e) :
    Disguised params args i ∧ ∃ v, args[i]? = some v ∧ e = .mismatch v.typeName v.typeName := by
  obtain ⟨⟨p, v, receives, found, unfit⟩, _⟩ := refused
  have expected := expects_of_receiver collected receives
  have accepted := Signature.not_refuses_iff.mp takes.2 i v p.valueType found expected
  have own : v.Genuine p.hostClass?.toList := by
    refine (genuine v (List.mem_of_getElem? found)).mono fun cls taken => ?_
    exact List.mem_flatMap.mpr ⟨p, mem_of_receiver receives, taken⟩
  obtain ⟨⟨cls, taken, noObject, shown⟩, told⟩ := Param.disguise_of_refused accepted own unfit
  exact ⟨⟨p, cls, v, receives, found, taken, noObject, shown⟩, v, found, told⟩

theorem not_disguised_of_converts (all : Converts params args k) (less : i < k) :
    ¬ Disguised params args i := by
  rintro ⟨p, cls, v, receives, found, taken, noObject, _⟩
  obtain ⟨x, converted⟩ := all i less p v receives found
  obtain ⟨o, object⟩ := Param.object_of_converts taken converted
  exact noObject o object

end Check

/-! ## 2. What is concluded from a result -/

namespace Builtin

variable {b : Builtin} {r : ResultShape} {x : r.Carrier}

/-- A call whose function kept its declaration ends with no error but one of the result itself. -/
theorem raises_of_conclude (declared : b.signature.returns = r.returns) {e : CallError}
    (error : b.conclude (r.outputs x) = .error e) : ∃ h, r.Raises x h ∧ e = b.blame h := by
  have count : (r.outputs x).length = b.signature.returns.length := by
    rw [declared, r.length_outputs]
  rcases b.conclude_cases (r.outputs x) with
    ⟨h, member, told⟩ | ⟨_, ⟨wrong, _⟩ | ⟨_, _, _, _, _, _, told⟩ | ⟨_, told⟩⟩
  · rw [told] at error
    cases error
    exact ⟨h, ResultShape.raises_iff.mp member, rfl⟩
  · exact absurd count wrong
  · rw [told] at error
    cases error
  · rw [told] at error
    cases error

/-- The value that such a call ends with is one that the first declared return accepts. -/
theorem accepts_of_conclude (declared : b.signature.returns = r.returns) {type : ValueType}
    {returns : List ReturnKind} (first : b.signature.returns = .value type :: returns) {v : Value}
    (answered : b.conclude (r.outputs x) = .ok v) : type.accepts v = true := by
  rcases b.conclude_cases (r.outputs x) with ⟨_, _, told⟩ | ⟨silent, concluded⟩
  · rw [told] at answered
    cases answered
  · obtain ⟨w, rest, produced, accepted⟩ := ResultShape.first_accepted
      (fun h raised => silent h (ResultShape.raises_iff.mpr raised)) (declared ▸ first)
    rcases concluded with ⟨_, told⟩ | ⟨_, _, _, _, _, same, told⟩ | ⟨no, _⟩
    · rw [told] at answered
      cases answered
    · rw [told] at answered
      cases answered
      cases produced.symm.trans same
      exact accepted
    · refine absurd ?_ (no type w (by rw [first]; rfl))
      rw [produced]
      rfl

/-- What is concluded from a function that has not run. -/
theorem conclude_refusal (b : Builtin) (returns : List ReturnKind) (e : ConversionError) :
    b.conclude (refusal returns e) = .error (.host (.conversion e)) := by
  have raised (h : HostError) : .error (some h) ∈ refusal returns e ↔ h = .conversion e := by
    simp [refusal]
  rcases b.conclude_cases (refusal returns e) with ⟨h, member, told⟩ | ⟨silent, _⟩
  · rw [told, (raised h).mp member]
    rfl
  · exact absurd ((raised _).mpr rfl) (silent _)

/-! ## 3. The whole call -/

section Call

variable {m : Type → Type} [Monad m] [LawfulMonad m] {f : TypedFn m} {hooks : Hooks m}
  {args : List Value}

/-- A call whose arguments are taken and drawn runs the function once and concludes from its
result. -/
theorem call_of_drawn (behind : hooks b.fn = f.hook) (takes : b.signature.Takes args)
    {xs : Args f.params} (drawn : takeArgs f.params 0 args = .ok xs) :
    b.call hooks args = (fun x => b.conclude (f.result.outputs x)) <$> f.body xs := by
  rw [call_of_takes takes, behind, TypedFn.hook_of_drawn drawn, Functor.map_map]

/-- A call whose arguments are taken and not drawn ends with the error of the drawing. -/
theorem call_of_not_drawn (behind : hooks b.fn = f.hook) (takes : b.signature.Takes args)
    {e : ConversionError} (failed : takeArgs f.params 0 args = .error e) :
    b.call hooks args = pure (.error (.host (.conversion e))) := by
  rw [call_of_takes takes, behind, TypedFn.hook_of_failed failed, map_pure, conclude_refusal]

end Call

/-- A typed host function is called through a builtin that declares its signature, with arguments
that pass the check and among which no object shows a type that it is not of.
* If no argument is disguised as an object, then the function runs exactly once; every parameter gets
  the value of its argument, the repeated one the values of all that are behind the others, in order;
  and the call is concluded from the function's result. The number of outputs is never wrong. Every
  error is one that the result has in it, and so is every conversion error. A value is accepted by the
  first declared return, where a value is declared there.
* Otherwise the function does not run, and the call ends with the conversion error of the first
  argument that is disguised. -/
theorem typed_call_sound {m : Type → Type} [Monad m] [LawfulMonad m] {f : TypedFn m} {b : Builtin}
    {hooks : Hooks m} {args : List Value} (declared : f.signature = .ok b.signature)
    (behind : hooks b.fn = f.hook) (passed : b.argumentError? args = none)
    (genuine : ∀ v ∈ args, v.Genuine (hostClasses f.params)) :
    ((∀ i, ¬ Disguised f.params args i) →
      ∃ xs, argValues f.params xs = args ∧
        b.call hooks args = (do let x ← f.body xs; return b.conclude (f.result.outputs x)) ∧
        ∀ x,
          (∀ name declared produced,
            b.conclude (f.result.outputs x) ≠ .error (.outputCount name declared produced)) ∧
          (∀ e, b.conclude (f.result.outputs x) = .error e →
            ∃ h, f.result.Raises x h ∧ e = b.blame h) ∧
          (∀ e, b.conclude (f.result.outputs x) = .error (.host (.conversion e)) →
            f.result.Raises x (.conversion e)) ∧
          ∀ type returns v, b.signature.returns = .value type :: returns →
            b.conclude (f.result.outputs x) = .ok v → type.accepts v = true) ∧
    ∀ i v, args[i]? = some v → Disguised f.params args i →
      (∀ j < i, ¬ Disguised f.params args j) →
      b.call hooks args =
        pure (.error (.host (.conversion (.mismatch v.typeName v.typeName)))) := by
  have takes := argumentError?_eq_none_iff.mp passed
  have kept : b.signature.returns = f.result.returns := Signature.returns_of_collect declared
  rcases takeArgs_cases 0 args declared with
    ⟨_, all, xs, drawn, values⟩ | ⟨i, e, refused, failed⟩ | ⟨few, _⟩
  · have whole : b.signature.taken args = args := Signature.taken_of_rightCount takes.1
    refine ⟨fun _ => ⟨xs, values.trans whole, ?_, fun x => ⟨?_, ?_, ?_, ?_⟩⟩, ?_⟩
    · rw [call_of_drawn behind takes drawn, bind_pure_comp]
    · intro name declared produced wrong
      obtain ⟨h, _, told⟩ := raises_of_conclude kept wrong
      exact blame_ne_outputCount b h name declared produced told.symm
    · intro e error
      exact raises_of_conclude kept error
    · intro e error
      obtain ⟨h, raised, told⟩ := raises_of_conclude kept error
      exact eq_conversion_of_blame told.symm ▸ raised
    · intro type returns v first answered
      exact accepts_of_conclude kept first answered
    · intro i v found disguised _
      exact absurd disguised
        (not_disguised_of_converts all (List.getElem?_eq_some_iff.mp found).1)
  · obtain ⟨disguised, v, found, rfl⟩ := disguised_of_refused declared takes genuine refused
    refine ⟨fun none => absurd disguised (none i), ?_⟩
    intro j w found' disguised' first
    -- the first argument that is refused is the first one that is disguised
    have same : i = j := by
      rcases Nat.lt_trichotomy i j with less | same | more
      · exact absurd disguised (first i less)
      · exact same
      · exact absurd disguised' (not_disguised_of_converts refused.before more)
    subst same
    cases found.symm.trans found'
    exact call_of_not_drawn behind takes failed
  · exact absurd few (Nat.not_lt.mpr (Signature.arity_le_of_rightCount takes.1))

/-- A host type that scripts see under a name of its own. -/
def counter : HostClass := ⟨1, .ofName "host.Counter", []⟩

/-- Adds up the integers that it gets behind a counter; the state counts its runs. -/
def raising : TypedFn (StateM Nat) where
  params := [.one (.object counter), .rest .int]
  result := .orError (.value .int)
  body := fun (_, numbers, _) runs => (.ok numbers.sum, runs + 1)

def raise : Builtin :=
  ⟨"raise", 0, [.exact counter.typeId], some (.exact .int), [.value (.exact .int), .error]⟩

theorem typed_call_sound_raising :
    let args := [.object ⟨4, counter, "counter"⟩, .int 2, .int 3]
    raise.argumentError? args = none ∧ ∃ xs, argValues raising.params xs = args ∧
      raise.call (fun _ => raising.hook) args =
        (do let x ← raising.body xs; return raise.conclude (raising.result.outputs x)) := by
  intro args
  have passed : raise.argumentError? args = none := by
    simp [args, argumentError?, refused?, signature, raise, Signature.admits, Signature.isVariadic,
      Signature.arity, Signature.expected?, ValueType.accepts, Value.typeId]
  have genuine : ∀ v ∈ args, v.Genuine (hostClasses raising.params) := by
    rintro v member
    have counts (o) (object : v = .object o) : o.cls = counter := by
      subst object
      have same : o = ⟨4, counter, "counter"⟩ := by simpa [args] using member
      rw [same]
    refine ⟨fun o object => ?_, fun o object c taken _ => ?_⟩
    · rw [counts o object]
      decide
    · rw [counts o object, List.mem_singleton.mp taken]
  have bare (i) : ¬ Disguised raising.params args i := by
    rintro ⟨p, cls, v, receives, found, taken, noObject, _⟩
    cases i with
    | zero =>
      cases found
      exact noObject _ rfl
    | succ i =>
      cases receives
      cases taken
  obtain ⟨xs, values, ran, _⟩ :=
    (@typed_call_sound _ _ _ raising raise (fun _ => raising.hook) args rfl rfl passed genuine).1 bare
  exact ⟨passed, xs, values, ran⟩

/-- A host type that shows the type of integers. -/
def ticket : HostClass := ⟨2, .int, []⟩

/-- Answers seven for every ticket; the state counts its runs. -/
def redeeming : TypedFn (StateM Nat) where
  params := [.one (.object ticket)]
  result := .orError (.value .int)
  body := fun _ runs => (.ok 7, runs + 1)

def redeem : Builtin := ⟨"redeem", 0, [.exact .int], none, [.value (.exact .int), .error]⟩

/-- An integer passes the check for a ticket, although no object is there that shows a wrong type. The
function does not run, and the call ends with a conversion error. -/
theorem integer_not_redeemed :
    redeeming.signature = .ok redeem.signature ∧ redeem.argumentError? [.int 3] = none ∧
    (∀ v ∈ [Value.int 3], v.Genuine (hostClasses redeeming.params)) ∧
    redeem.call (fun _ => redeeming.hook) [.int 3] =
      pure (.error (.host (.conversion (.mismatch "int" "int")))) ∧
    ∀ xs, redeem.call (fun _ => redeeming.hook) [.int 3] ≠
      (do let x ← redeeming.body xs; return redeem.conclude (redeeming.result.outputs x)) := by
  have ended : redeem.call (fun _ => redeeming.hook) [.int 3] =
      pure (.error (.host (.conversion (.mismatch "int" "int")))) := rfl
  refine ⟨rfl, by decide, ?_, ended, ?_⟩
  · intro v member
    obtain rfl := List.mem_singleton.mp member
    exact ⟨nofun, nofun⟩
  · intro xs ran
    -- the function would have been counted
    have counts := congrArg Prod.snd (congrFun ran 0)
    cases counts

end Builtin

end ScriptBridge
