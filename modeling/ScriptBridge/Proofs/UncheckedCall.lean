import ScriptBridge.Host.TypedFn
import ScriptBridge.Proofs.ParameterForms

/-!
# Calls without a check

A host may call a typed function directly, with arguments that nothing has checked. The function then
draws its arguments itself, from left to right. Here the drawing is told position by position:
`receiver?` is the parameter that an argument goes to, `Param.convert` what this parameter makes of
the argument, and `Converts` says how far the arguments convert. Either everything that is needed is
there and converts, and the function runs; or the first position that fails decides, and the function
does not run.

Results:
1. `take_of_converts`, `take_of_refused`, `convertAll_cases`: one parameter.
2. `takeArgs_cases`: all parameters of a function that can be declared.
3. `refusal_eq`: the outputs that stand for a function that has not run.
4. `unchecked_call_settled`: the call.
-/

namespace ScriptBridge

/-! ## 1. One parameter -/

namespace Param

/-- Whether the parameter is the repeated one. -/
def isRest : Param → Bool
  | rest _ => true
  | _ => false

/-- What the parameter makes of one argument. -/
@[reducible] def Item : Param → Type
  | one type => type.Carrier
  | meeting interface => interface.Instance
  | rest element => element.Carrier

/-- Converts one argument. -/
def convert : (p : Param) → Value → Except ConversionError p.Item
  | one type, v => type.fromValue v
  | meeting interface, v => interface.meet v
  | rest element, v => element.fromValue v

/-- The type that the parameter declares, for each of its arguments. -/
def valueType : Param → ValueType
  | one type => type.valueType
  | meeting interface => .offering interface
  | rest element => element.valueType

/-- The script values behind what the host function receives for the parameter. -/
def values : (p : Param) → p.Carrier → List Value
  | one type, x => [type.toValue x]
  | meeting _, x => [x.value]
  | rest element, xs => xs.map element.toValue

variable {p : Param} {index : Nat} {v : Value} {args : List Value} {e : ConversionError}

theorem form_of_single (single : p.isRest = false) : p.form = .single p.valueType := by
  cases p with
  | rest element => cases single
  | _ => rfl

theorem take_of_absent (single : p.isRest = false) : p.take index [] = .error (.missing index) := by
  cases p with
  | rest element => cases single
  | _ => rfl

/-- A parameter that takes one argument gets the value of this argument, and the others are left. -/
theorem take_of_converts (single : p.isRest = false) {x : p.Item} (converted : p.convert v = .ok x) :
    ∃ y, p.values y = [v] ∧ ∀ index args, p.take index (v :: args) = .ok (y, args) := by
  cases p with
  | rest element => cases single
  | one type =>
    have read : type.fromValue v = .ok x := converted
    refine ⟨x, ?_, fun index args => by simp [take, read, Except.map]⟩
    rw [values, HostType.toValue_of_fromValue read]
  | meeting interface =>
    have met : interface.meet v = .ok x := converted
    refine ⟨x, ?_, fun index args => by simp [take, met, Except.map]⟩
    unfold Interface.meet at met
    split at met <;> cases met
    rfl

theorem take_of_refused (single : p.isRest = false) (refused : p.convert v = .error e) :
    p.take index (v :: args) = .error e := by
  cases p with
  | rest element => cases single
  | one type =>
    have unread : type.fromValue v = .error e := refused
    simp [take, unread, Except.map]
  | meeting interface =>
    have unmet : interface.meet v = .error e := refused
    simp [take, unmet, Except.map]

end Param

/-- The script values behind what the host function receives, one parameter after the other. -/
def argValues : (params : List Param) → Args params → List Value
  | [], _ => []
  | p :: params, (x, xs) => p.values x ++ argValues params xs

/-- The parameter that the argument at a position goes to. The repeated one gets all arguments from
its own position on. -/
def receiver? : List Param → Nat → Option Param
  | [], _ => none
  | .rest element :: _, _ => some (.rest element)
  | p :: _, 0 => some p
  | _ :: params, i + 1 => receiver? params i

/-- Every argument in front of position `k` converts, for the parameter that it goes to. Those that go
to no parameter are not converted. -/
def Converts (params : List Param) (args : List Value) (k : Nat) : Prop :=
  ∀ i < k, ∀ p v, receiver? params i = some p → args[i]? = some v → ∃ x, p.convert v = .ok x

section Drawing

variable {p : Param} {params : List Param} {element : HostType} {v : Value} {args : List Value}
  {i k : Nat} {e : ConversionError}

theorem receiver?_cons_zero (p : Param) (params : List Param) :
    receiver? (p :: params) 0 = some p := by
  cases p <;> rfl

theorem receiver?_cons_succ (single : p.isRest = false) (params : List Param) (i : Nat) :
    receiver? (p :: params) (i + 1) = receiver? params i := by
  cases p with
  | rest element => cases single
  | _ => rfl

theorem mem_of_receiver (receives : receiver? params i = some p) : p ∈ params := by
  induction params generalizing i with
  | nil => cases receives
  | cons q params ih =>
    cases i with
    | zero =>
      rw [receiver?_cons_zero] at receives
      exact Option.some.inj receives ▸ List.mem_cons_self
    | succ i =>
      cases single : q.isRest with
      | false =>
        rw [receiver?_cons_succ single] at receives
        exact List.mem_cons_of_mem _ (ih receives)
      | true =>
        cases q with
        | rest element =>
          cases receives
          exact List.mem_cons_self
        | _ => cases single

theorem converts_zero (params : List Param) (args : List Value) : Converts params args 0 :=
  fun _ less => absurd less (Nat.not_lt_zero _)

/-- `others` receive what is behind the first argument: the other parameters, or all of them if the
first one is repeated. -/
theorem converts_cons {others : List Param} {x : p.Item}
    (shift : ∀ i, receiver? (p :: params) (i + 1) = receiver? others i)
    (first : p.convert v = .ok x) (behind : Converts others args k) :
    Converts (p :: params) (v :: args) (k + 1) := by
  intro i less q w receives found
  cases i with
  | zero =>
    rw [receiver?_cons_zero] at receives
    cases receives
    cases found
    exact ⟨x, first⟩
  | succ i =>
    rw [shift] at receives
    exact behind i (Nat.lt_of_succ_lt_succ less) q w receives found

/-! ## 2. All parameters -/

/-- The argument at position `i` is the first that does not convert, and `e` is its error. -/
structure FirstRefused (params : List Param) (args : List Value) (i : Nat) (e : ConversionError) :
    Prop where
  refused : ∃ p v, receiver? params i = some p ∧ args[i]? = some v ∧ p.convert v = .error e
  before : Converts params args i

theorem firstRefused_zero (params : List Param) (args : List Value) (refused : p.convert v = .error e) :
    FirstRefused (p :: params) (v :: args) 0 e :=
  ⟨⟨p, v, receiver?_cons_zero p params, rfl, refused⟩, converts_zero _ _⟩

theorem firstRefused_cons {others : List Param} {x : p.Item}
    (shift : ∀ i, receiver? (p :: params) (i + 1) = receiver? others i)
    (first : p.convert v = .ok x) (behind : FirstRefused others args i e) :
    FirstRefused (p :: params) (v :: args) (i + 1) e := by
  obtain ⟨⟨q, w, receives, found, refused⟩, before⟩ := behind
  exact ⟨⟨q, w, (shift i).trans receives, found, refused⟩, converts_cons shift first before⟩

theorem FirstRefused.not_converts (refused : FirstRefused params args i e) :
    ¬ Converts params args args.length := by
  intro all
  obtain ⟨⟨p, v, receives, found, unfit⟩, _⟩ := refused
  have inside : i < args.length := (List.getElem?_eq_some_iff.mp found).1
  obtain ⟨x, converted⟩ := all i inside p v receives found
  cases converted.symm.trans unfit

/-- The repeated parameter converts all that is left, or stops at the first argument that does not
convert. -/
theorem convertAll_cases (element : HostType) (params : List Param) (args : List Value) :
    (Converts (.rest element :: params) args args.length ∧
      ∃ xs, Param.convertAll element args = .ok xs ∧ xs.map element.toValue = args) ∨
    ∃ i e, FirstRefused (.rest element :: params) args i e ∧
      Param.convertAll element args = .error e := by
  induction args with
  | nil => exact .inl ⟨converts_zero _ _, [], rfl, rfl⟩
  | cons v args ih =>
    have shift (i : Nat) : receiver? (.rest element :: params) (i + 1) =
        receiver? (.rest element :: params) i := rfl
    cases converted : element.fromValue v with
    | error e =>
      refine .inr ⟨0, e, firstRefused_zero params args converted, ?_⟩
      rw [Param.convertAll, converted]
    | ok x =>
      rcases ih with ⟨all, xs, done, values⟩ | ⟨i, e, refused, failed⟩
      · refine .inl ⟨converts_cons shift converted all, x :: xs, ?_, ?_⟩
        · rw [Param.convertAll, converted, done]
        · rw [List.map_cons, values, HostType.toValue_of_fromValue converted]
      · refine .inr ⟨i + 1, e, firstRefused_cons shift converted refused, ?_⟩
        rw [Param.convertAll, converted, failed]

/-- The arguments that a function of this signature takes: all of them if it has a repeated parameter,
and one for each parameter otherwise. -/
def Signature.taken (s : Signature) (args : List Value) : List Value :=
  if s.isVariadic then args else args.take s.arity

theorem Signature.taken_cons (s : Signature) (type : ValueType) (v : Value) (args : List Value) :
    taken { s with params := type :: s.params } (v :: args) = v :: s.taken args := by
  unfold taken
  cases variadic : s.isVariadic with
  | true => exact if_pos variadic
  | false => exact if_neg (Bool.eq_false_iff.mp variadic)

theorem takeArgs_of_absent (single : p.isRest = false) (index : Nat) :
    takeArgs (p :: params) index [] = .error (.missing index) := by
  rw [takeArgs, Param.take_of_absent single]

theorem takeArgs_of_refused (single : p.isRest = false) (refused : p.convert v = .error e)
    (index : Nat) : takeArgs (p :: params) index (v :: args) = .error e := by
  rw [takeArgs, Param.take_of_refused single refused]

/-- Behind a parameter that takes one argument, drawing goes on with the next position. -/
theorem takeArgs_of_converts (single : p.isRest = false) {x : p.Item}
    (converted : p.convert v = .ok x) (params : List Param) :
    ∃ y, p.values y = [v] ∧ ∀ index args, takeArgs (p :: params) index (v :: args) =
      (takeArgs params (index + 1) args).map fun xs => (y, xs) := by
  obtain ⟨y, value, took⟩ := Param.take_of_converts single converted
  refine ⟨y, value, fun index args => ?_⟩
  rw [takeArgs, took]
  dsimp only
  cases takeArgs params (index + 1) args <;> rfl

/-- Drawing the arguments of all parameters comes to its end, or stops at the first argument that does
not convert, or at the first that is not there. -/
theorem takeArgs_cases {count position : Nat} {returns : List ReturnKind} {s : Signature}
    (index : Nat) (args : List Value)
    (collected : Signature.collect count returns position (params.map Param.form) = .ok s) :
    (s.arity ≤ args.length ∧ Converts params args args.length ∧
      ∃ xs, takeArgs params index args = .ok xs ∧ argValues params xs = s.taken args) ∨
    (∃ i e, FirstRefused params args i e ∧ takeArgs params index args = .error e) ∨
    args.length < s.arity ∧ Converts params args args.length ∧
      takeArgs params index args = .error (.missing (index + args.length)) := by
  induction params generalizing position index s args with
  | nil =>
    cases collected
    refine .inl ⟨Nat.zero_le _, ?_, (), rfl, rfl⟩
    rintro i _ p v receives
    cases receives
  | cons p params ih =>
    cases single : p.isRest with
    | true =>
      cases p with
      | rest element =>
        obtain ⟨last, rfl⟩ := Signature.collect_rest_iff.mp collected
        obtain rfl := List.map_eq_nil_iff.mp last
        rcases convertAll_cases element [] args with ⟨all, xs, done, values⟩ | ⟨i, e, refused, failed⟩
        · refine .inl ⟨Nat.zero_le _, all, (xs, ()), ?_, ?_⟩
          · simp [takeArgs, Param.take, done, Except.map]
          · simp [argValues, Param.values, values, Signature.taken, Signature.isVariadic]
        · refine .inr (.inl ⟨i, e, refused, ?_⟩)
          simp [takeArgs, Param.take, failed, Except.map]
      | _ => cases single
    | false =>
      have shift := receiver?_cons_succ single params
      rw [List.map_cons, Param.form_of_single single] at collected
      obtain ⟨behind, tail, rfl⟩ := Signature.collect_single_iff.mp collected
      cases args with
      | nil =>
        exact .inr (.inr ⟨Nat.succ_pos _, converts_zero _ _, takeArgs_of_absent single index⟩)
      | cons v args =>
        -- the first argument decides, or drawing goes on behind it one position further
        cases converted : p.convert v with
        | error e =>
          exact .inr (.inl ⟨0, e, firstRefused_zero params args converted,
            takeArgs_of_refused single converted index⟩)
        | ok x =>
          obtain ⟨y, value, goes_on⟩ := takeArgs_of_converts single converted params
          rw [goes_on]
          rcases ih (index + 1) args tail with
            ⟨enough, all, xs, drawn, values⟩ | ⟨i, e, refused, failed⟩ | ⟨few, all, failed⟩
          · refine .inl ⟨Nat.succ_le_succ enough, converts_cons shift converted all, (y, xs), ?_, ?_⟩
            · rw [drawn]
              rfl
            · rw [argValues, value, values, Signature.taken_cons, List.singleton_append]
          · refine .inr (.inl ⟨i + 1, e, firstRefused_cons shift converted refused, ?_⟩)
            rw [failed]
            rfl
          · refine .inr (.inr ⟨Nat.succ_lt_succ few, converts_cons shift converted all, ?_⟩)
            rw [failed, List.length_cons, Nat.add_right_comm]
            rfl

/-- The arguments that are not taken play no part. -/
theorem takeArgs_taken {count position : Nat} {returns : List ReturnKind} {s : Signature}
    (index : Nat) (args : List Value)
    (collected : Signature.collect count returns position (params.map Param.form) = .ok s) :
    takeArgs params index (s.taken args) = takeArgs params index args := by
  induction params generalizing position index s args with
  | nil => rfl
  | cons p params ih =>
    cases single : p.isRest with
    | true =>
      cases p with
      | rest element =>
        obtain ⟨_, rfl⟩ := Signature.collect_rest_iff.mp collected
        rfl
      | _ => cases single
    | false =>
      rw [List.map_cons, Param.form_of_single single] at collected
      obtain ⟨behind, tail, rfl⟩ := Signature.collect_single_iff.mp collected
      cases args with
      | nil =>
        unfold Signature.taken
        rw [List.take_nil, ite_self]
      | cons v args =>
        rw [Signature.taken_cons]
        cases converted : p.convert v with
        | error e => rw [takeArgs_of_refused single converted, takeArgs_of_refused single converted]
        | ok x =>
          obtain ⟨y, _, goes_on⟩ := takeArgs_of_converts single converted params
          rw [goes_on, goes_on, ih (index + 1) args tail]

end Drawing

/-! ## 3. Outputs of a function that has not run -/

theorem refusal_eq (returns : List ReturnKind) (e : ConversionError) :
    refusal returns e =
      List.replicate (max 1 returns.length - 1) (.value .nil) ++ [.error (some (.conversion e))] := by
  have count : returns.length - 1 = max 1 returns.length - 1 := by omega
  rw [refusal, List.map_const', List.length_dropLast, count]

/-! ## 4. The call -/

namespace TypedFn

variable {m : Type → Type} [Monad m] {f : TypedFn m} {args : List Value}

theorem hook_of_drawn [LawfulMonad m] {xs : Args f.params}
    (drawn : takeArgs f.params 0 args = .ok xs) : f.hook args = f.result.outputs <$> f.body xs := by
  unfold hook
  rw [drawn]
  exact bind_pure_comp _ _

theorem hook_of_failed {e : ConversionError} (failed : takeArgs f.params 0 args = .error e) :
    f.hook args = pure (refusal f.result.returns e) := by
  unfold hook
  rw [failed]

/-- A typed function that can be declared is called directly, with any arguments.
* If there are as many arguments as it has leading parameters, and each converts for the parameter
  that it goes to, then the function runs once: every parameter gets the value at its place, and the
  repeated one all that are behind the others, in order.
* Otherwise it does not run. The outputs are as many as declared returns, and one if none is declared:
  nil, and in the last place a conversion error. This is the error of the first argument that does not
  convert or, if all that are there convert and they are too few, it says that an argument is missing
  at the first position behind them.
* Without a repeated parameter, surplus arguments play no part. -/
theorem unchecked_call_settled [LawfulMonad m] {s : Signature} (declared : f.signature = .ok s)
    (args : List Value) :
    (s.arity ≤ args.length ∧ Converts f.params args args.length →
      ∃ xs, argValues f.params xs = s.taken args ∧
        f.hook args = f.result.outputs <$> f.body xs) ∧
    (¬ (s.arity ≤ args.length ∧ Converts f.params args args.length) →
      ∃ e,
        ((∃ i, FirstRefused f.params args i e) ∨
          args.length < s.arity ∧ Converts f.params args args.length ∧
            e = .missing args.length) ∧
        f.hook args = pure (List.replicate (max 1 s.returns.length - 1) (.value .nil) ++
          [.error (some (.conversion e))])) ∧
    (s.isVariadic = false → f.hook args = f.hook (args.take s.arity)) := by
  have kept : s.returns = f.result.returns := Signature.returns_of_collect declared
  refine ⟨?runs, ?refuses, ?surplus⟩
  case runs =>
    rintro ⟨enough, all⟩
    rcases takeArgs_cases 0 args declared with
      ⟨_, _, xs, drawn, values⟩ | ⟨i, e, refused, _⟩ | ⟨few, _⟩
    · exact ⟨xs, values, hook_of_drawn drawn⟩
    · exact absurd all refused.not_converts
    · exact absurd enough (Nat.not_le.mpr few)
  case refuses =>
    intro unfit
    rw [kept]
    simp only [← refusal_eq]
    rcases takeArgs_cases 0 args declared with
      ⟨enough, all, _⟩ | ⟨i, e, refused, failed⟩ | ⟨few, all, failed⟩
    · exact absurd ⟨enough, all⟩ unfit
    · exact ⟨e, .inl ⟨i, refused⟩, hook_of_failed failed⟩
    · rw [Nat.zero_add] at failed
      exact ⟨_, .inr ⟨few, all, rfl⟩, hook_of_failed failed⟩
  case surplus =>
    intro fixed
    have taken : s.taken args = args.take s.arity := if_neg (Bool.eq_false_iff.mp fixed)
    unfold hook
    rw [← taken, takeArgs_taken 0 args declared]

/-- Repeats a text, and takes any number of marks behind it; the state counts its runs. -/
def repeating : TypedFn (StateM Nat) where
  params := [.one .int, .one .string, .rest .bool]
  result := .orError (.value .int)
  body := fun (times, _, marks, _) runs => (.ok (times + Int64.ofNat marks.length), runs + 1)

/-- It is called with a number only, with a mark that is none, and as it should be. -/
theorem repeating_called :
    let s : Signature := ⟨[.exact .int, .exact .string], some (.exact .bool),
      [.value (.exact .int), .error]⟩
    repeating.signature = .ok s ∧
      repeating.hook [.int 3] = pure [.value .nil, .error (some (.conversion (.missing 1)))] ∧
      (∃ e, repeating.hook [.int 3, .string "ab", .bool true, .int 1] =
        pure [.value .nil, .error (some (.conversion e))]) ∧
      ∃ xs, argValues repeating.params xs = [.int 3, .string "ab", .bool true] ∧
        repeating.hook [.int 3, .string "ab", .bool true] =
          repeating.result.outputs <$> repeating.body xs := by
  intro s
  have declared : repeating.signature = .ok s := rfl
  have number (args : List Value) (k : Nat) (behind : Converts [.one .string, .rest .bool] args k) :
      Converts repeating.params (.int 3 :: args) (k + 1) :=
    converts_cons (receiver?_cons_succ rfl _) (rfl : (Param.one .int).convert (.int 3) = .ok 3) behind
  have text (args : List Value) (k : Nat) (behind : Converts [.rest .bool] args k) :
      Converts [.one .string, .rest .bool] (.string "ab" :: args) (k + 1) :=
    converts_cons (receiver?_cons_succ rfl _)
      (rfl : (Param.one .string).convert (.string "ab") = .ok "ab") behind
  have mark (args : List Value) (k : Nat) (behind : Converts [.rest .bool] args k) :
      Converts [.rest .bool] (.bool true :: args) (k + 1) :=
    converts_cons (fun _ => rfl) (rfl : (Param.rest .bool).convert (.bool true) = .ok true) behind
  refine ⟨declared, ?few, ?unfit, ?fits⟩
  case few =>
    have all := number [] 0 (converts_zero _ _)
    obtain ⟨e, ⟨i, refused⟩ | ⟨_, _, rfl⟩, told⟩ :=
      (unchecked_call_settled declared [.int 3]).2.1 fun fits => absurd fits.1 (by decide)
    · exact absurd all refused.not_converts
    · exact told
  case unfit =>
    have last : FirstRefused repeating.params [.int 3, .string "ab", .bool true, .int 1] 3
        (.mismatch "bool" "int") :=
      ⟨⟨.rest .bool, .int 1, rfl, rfl, rfl⟩, number _ _ (text _ _ (mark _ _ (converts_zero _ _)))⟩
    obtain ⟨e, _, told⟩ :=
      (unchecked_call_settled declared _).2.1 fun fits => last.not_converts fits.2
    exact ⟨e, told⟩
  case fits =>
    have all := number _ _ (text _ _ (mark [] 0 (converts_zero _ _)))
    exact (unchecked_call_settled declared _).1 ⟨by decide, all⟩

end TypedFn

end ScriptBridge
