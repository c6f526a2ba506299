import ScriptBridge.Proofs.AnyOutputs
import ScriptBridge.Proofs.SettingLife
import ScriptBridge.Scope.Variables

/-!
# Who names a type error

A type error may be raised before anyone knows which field it is about. On its way out it passes a
check, and then a setting or the builtin whose host function made the check; each of them offers its
name, which may be empty. A rule can also raise an error that has a name already. The first name that
is not empty stays, so an error is attributed to the innermost of the places that have a name.

Results:
1. `field?_offer`, `unnamed_offer`: any number of names are offered to an error.
2. `check_eq_error_iff`: the error of a check is one that the descriptor gives rise to
   (`Descriptor.Refuses`), with the field offered to it.
3. `call_of_fails`: a call whose host function fails.
4. `field?_of_assign_error`, `assign_of_pull_error`: settings.
5. `named_by_the_first`: errors through all of these.
-/

namespace ScriptBridge

/-! ## 1. Offering names -/

namespace TypeError

/-- Offers names to an error, one after the other. -/
def offer (names : List String) (e : TypeError) : TypeError :=
  names.foldl (fun e name => e.nameOnce name) e

/-- The first of some names that is not empty. -/
def firstName? (names : List String) : Option String := names.find? fun name => name ≠ ""

/-- All that an error tells but its field: its kind, the type of the value, and the wanted one. -/
def unnamed : TypeError → TypeError
  | wrongType _ got wants => wrongType "" got wants
  | lacksMethods _ got wants => lacksMethods "" got wants
  | badDescriptor => badDescriptor

theorem unnamed_nameOnce (name : String) (e : TypeError) :
    (e.nameOnce name).unnamed = e.unnamed := by
  cases e <;> rfl

theorem nameOnce_eq_badDescriptor_iff {name : String} {e : TypeError} :
    e.nameOnce name = badDescriptor ↔ e = badDescriptor := by
  cases e <;> simp [nameOnce]

theorem offer_cons (name : String) (names : List String) (e : TypeError) :
    e.offer (name :: names) = (e.nameOnce name).offer names := rfl

theorem unnamed_offer (names : List String) (e : TypeError) :
    (e.offer names).unnamed = e.unnamed := by
  induction names generalizing e with
  | nil => rfl
  | cons name names ih => rw [offer_cons, ih, unnamed_nameOnce]

theorem offer_badDescriptor (names : List String) :
    badDescriptor.offer names = badDescriptor := by
  induction names with
  | nil => rfl
  | cons name names ih => exact ih

theorem firstName?_cons (name : String) (names : List String) :
    firstName? (name :: names) =
      (if name = "" then none else some name).or (firstName? names) := by
  by_cases empty : name = "" <;> simp [firstName?, empty]

/-- An error that has a field keeps it; one without takes the first name that is not empty. -/
theorem field?_offer {e : TypeError} (some_place : e ≠ badDescriptor) (names : List String) :
    (e.offer names).field? = e.field?.or (firstName? names) := by
  induction names generalizing e with
  | nil => simp [offer, firstName?]
  | cons name names ih =>
    have still : e.nameOnce name ≠ badDescriptor := mt nameOnce_eq_badDescriptor_iff.mp some_place
    rw [offer_cons, ih still, field?_nameOnce, if_neg some_place, Option.or_assoc, firstName?_cons]

end TypeError

/-! ## 2. Checks -/

theorem mapError_eq_error_iff {ε δ α : Type} {f : ε → δ} {x : Except ε α} {e : δ} :
    x.mapError f = .error e ↔ ∃ own, x = .error own ∧ e = f own := by
  constructor
  · intro failed
    cases x with
    | ok a => cases failed
    | error own =>
      cases failed
      exact ⟨own, rfl, rfl⟩
  · rintro ⟨own, rfl, rfl⟩
    rfl

theorem Rule.apply_eq_error_iff {rule : Rule} {v : Value} {e : TypeError} :
    rule.apply v = .error e ↔
      (rule.normalize v = .error .declined ∧ e = .wrongType "" v.typeName rule.name) ∨
        rule.normalize v = .error (.type e) := by
  unfold Rule.apply
  cases rule.normalize v with
  | ok w => simp
  | error own => cases own <;> simp [eq_comm]

namespace Descriptor

/-- `d.Refuses v e`: the value does not pass the descriptor, and `e` is the error before any name is
offered to it. Only an error that a rule raises itself may have a field. -/
inductive Refuses : Descriptor → Value → TypeError → Prop
  | malformed {v : Value} : Refuses (.exact .nil) v .badDescriptor
  | exact {type : TypeId} {v : Value} :
      type ≠ .nil → v.typeId ≠ type → Refuses (.exact type) v (.wrongType "" v.typeName type.name)
  | offering {interface : Interface} {v : Value} :
      interface.metBy v.methods = false →
      Refuses (.offering interface) v (.lacksMethods "" v.typeName interface.name)
  | declined {rule : Rule} {v : Value} :
      rule.normalize v = .error .declined →
      Refuses (.coerced rule) v (.wrongType "" v.typeName rule.name)
  | raised {rule : Rule} {v : Value} {own : TypeError} :
      rule.normalize v = .error (.type own) → Refuses (.coerced rule) v own

theorem check_eq_error_iff {d : Descriptor} {field : String} {v : Value} {e : TypeError} :
    d.check field v = .error e ↔ ∃ own, d.Refuses v own ∧ e = own.nameOnce field := by
  constructor
  · intro failed
    cases d with
    | exact type =>
      simp only [check] at failed
      split at failed
      · next nil =>
        cases failed
        subst nil
        exact ⟨_, .malformed, rfl⟩
      · next some_type =>
        split at failed
        · cases failed
        · next other =>
          cases failed
          exact ⟨_, .exact some_type other, rfl⟩
    | offering interface =>
      simp only [check] at failed
      split at failed
      · cases failed
      · next lacking =>
        cases failed
        exact ⟨_, .offering (Bool.eq_false_iff.mpr lacking), rfl⟩
    | coerced rule =>
      obtain ⟨own, applied, rfl⟩ := mapError_eq_error_iff.mp failed
      rcases Rule.apply_eq_error_iff.mp applied with ⟨declined, rfl⟩ | raised
      · exact ⟨_, .declined declined, rfl⟩
      · exact ⟨_, .raised raised, rfl⟩
  · rintro ⟨own, refuses, rfl⟩
    cases refuses with
    | malformed => simp [check, TypeError.nameOnce]
    | exact some_type other => simp [check, some_type, other, TypeError.nameOnce]
    | offering lacking => simp [check, lacking, TypeError.nameOnce]
    | declined declined =>
      exact mapError_eq_error_iff.mpr ⟨_, Rule.apply_eq_error_iff.mpr (.inl ⟨declined, rfl⟩), rfl⟩
    | raised raised =>
      exact mapError_eq_error_iff.mpr ⟨_, Rule.apply_eq_error_iff.mpr (.inr raised), rfl⟩

end Descriptor

/-! ## 3. Calls -/

namespace Builtin

variable {m : Type → Type} [Monad m]

/-- Called with these arguments the host function fails with an error, whatever else it does: the
leftmost error among the outputs that it produces is this one. -/
def Fails (hooks : Hooks m) (fn : HostFn) (args : List Value) (h : HostError) : Prop :=
  ∃ act : m { outputs : List Output // outputs.findSome? Output.failure? = some h },
    Subtype.val <$> act = hooks fn args

/-- A call runs the host function, and ends with its error if it fails. -/
theorem call_of_fails [LawfulMonad m] {b : Builtin} {args : List Value} {hooks : Hooks m}
    {h : HostError} (passed : b.argumentError? args = none) (fails : Fails hooks b.fn args h) :
    b.call hooks args = (fun _ => .error (b.blame h)) <$> hooks b.fn args := by
  obtain ⟨act, produced⟩ := fails
  have told (outputs : { outputs : List Output // outputs.findSome? Output.failure? = some h }) :
      b.conclude outputs.val = .error (b.blame h) := by
    simp only [conclude, outputs.property]
  rw [call_of_takes (argumentError?_eq_none_iff.mp passed), ← produced]
  simp [told]

end Builtin

/-! ## 4. Settings -/

namespace Setting

variable {s t : Setting} {v : Value} {e : TypeError}

/-- A type error of an assignment has the field that the rule has given it, and else the name of the
setting. -/
theorem field?_of_assign_error (named : s.name ≠ "") (some_place : e ≠ .badDescriptor)
    (failed : assign v s = .error (.type e) t) :
    ∃ own, s.descriptor.Refuses v own ∧ e.field? = some (own.field?.getD s.name) := by
  obtain ⟨_, _, error, checked, same⟩ := assign_eq_error_iff.mp failed
  obtain rfl := SettingError.type.inj same
  obtain ⟨own, refuses, rfl⟩ := Descriptor.check_eq_error_iff.mp checked
  have own_place : own ≠ .badDescriptor :=
    mt TypeError.nameOnce_eq_badDescriptor_iff.mpr some_place
  refine ⟨own, refuses, ?_⟩
  rw [TypeError.field?_nameOnce, if_neg own_place, if_neg named]
  cases own.field? <;> rfl

/-- A pull fails with a type error only when it assigns what it has got from the scope. -/
theorem assign_of_pull_error {σ : Type} [Scope σ] {scope : σ}
    (failed : pull scope s = .error (.type e) t) :
    ∃ v, Scope.get scope s.name = .ok v ∧ assign v s = .error (.type e) t := by
  unfold pull at failed
  split at failed
  · cases failed
  · split at failed
    · cases got : Scope.get scope s.name with
      | ok v =>
        rw [got] at failed
        exact ⟨v, rfl, failed⟩
      | error error =>
        rw [got] at failed
        cases failed
    · split at failed <;> cases failed

end Setting

/-! ## 5. All the way out -/

/-- Whatever names are offered to a type error, it keeps its kind and both types. It keeps the name
that it has; without one it gets the first that is not empty, except that an error about a malformed
descriptor has no place for a name.

Let a check under a rule fail, and a host function fail with the error of that check, whatever else
it does. Then a call of the builtin tells the error that the rule has given rise to, named by the
first of these that is not empty: the rule's own field, the field of the check, and the name of the
builtin.

Let a setting have a name. Then a type error that an assignment or a pull fails with is named by the
rule's own field if there is one, and by the setting otherwise. -/
theorem named_by_the_first :
    (∀ (e : TypeError) names, (e.offer names).unnamed = e.unnamed ∧
      (e ≠ .badDescriptor → (e.offer names).field? = e.field?.or (TypeError.firstName? names)) ∧
      TypeError.badDescriptor.offer names = .badDescriptor) ∧
    (∀ (rule : Rule) field v e, (Descriptor.coerced rule).check field v = .error e →
      e ≠ .badDescriptor → ∃ own, (Descriptor.coerced rule).Refuses v own ∧
        ∀ (m : Type → Type) [Monad m] [LawfulMonad m] (hooks : Hooks m) (b : Builtin) args,
          b.argumentError? args = none → Builtin.Fails hooks b.fn args (.type e) →
          ∃ told : TypeError,
            b.call hooks args = (fun _ => .error (.type told)) <$> hooks b.fn args ∧
            told.unnamed = own.unnamed ∧
            told.field? = own.field?.or (TypeError.firstName? [field, b.name])) ∧
    ∀ (s : Setting) (e : TypeError), s.name ≠ "" → e ≠ .badDescriptor →
      (∀ v t, Setting.assign v s = .error (.type e) t →
        ∃ own, s.descriptor.Refuses v own ∧ e.field? = some (own.field?.getD s.name)) ∧
      ∀ (σ : Type) [Scope σ] (scope : σ) t, Setting.pull scope s = .error (.type e) t →
        ∃ v own, Scope.get scope s.name = .ok v ∧ s.descriptor.Refuses v own ∧
          e.field? = some (own.field?.getD s.name) := by
  refine ⟨fun e names => ?_, fun rule field v e failed some_place => ?_,
    fun s e named some_place => ⟨fun v t => ?_, fun σ _ scope t failed => ?_⟩⟩
  · exact ⟨e.unnamed_offer names, fun some_place => TypeError.field?_offer some_place names,
      TypeError.offer_badDescriptor names⟩
  · obtain ⟨own, refuses, rfl⟩ := Descriptor.check_eq_error_iff.mp failed
    have own_place : own ≠ .badDescriptor :=
      mt TypeError.nameOnce_eq_badDescriptor_iff.mpr some_place
    refine ⟨own, refuses, fun m _ _ hooks b args passed fails => ?_⟩
    -- the builtin offers its name to what the check has offered the field to
    exact ⟨own.offer [field, b.name], Builtin.call_of_fails passed fails, own.unnamed_offer _,
      TypeError.field?_offer own_place _⟩
  · exact Setting.field?_of_assign_error named some_place
  · obtain ⟨v, got, assigned⟩ := Setting.assign_of_pull_error failed
    obtain ⟨own, refuses, field⟩ := Setting.field?_of_assign_error named some_place assigned
    exact ⟨v, own, got, refuses, field⟩

/-- A rule for positive integers that names the errors about other integers itself. -/
def positive : Rule where
  name := "positive"
  ident := 3
  normalize
    | .int n => if 0 < n then .ok (.int n) else .error (.type (.wrongType "sign" "int" "positive"))
    | _ => .error .declined

/-- A builtin whose check has no field of its own, a setting under a rule that names its error, and
the same setting with a value that the rule declines. -/
theorem positive_named :
    let limit : Builtin := ⟨"limit", 0, [.offering .anything], none, [.error]⟩
    let retries : Setting := ⟨"retries", "", .read, .coerced positive, .nil⟩
    let e : TypeError := .wrongType "" "bool" "positive"
    let hooks : Hooks Id := fun _ _ => [.error (some (.type e))]
    (Descriptor.coerced positive).check "" (.bool true) = .error e ∧
      (∃ told : TypeError, limit.call hooks [.bool true] = .error (.type told) ∧
        told.field? = some "limit") ∧
      (∃ told : TypeError, Setting.assign (.int (-1)) retries = .error (.type told) retries ∧
        told.field? = some "sign") ∧
      ∃ told : TypeError, Setting.pull (Variables.empty.insert "retries" (.bool true)) retries =
        .error (.type told) retries ∧ told.field? = some "retries" := by
  intro limit retries e hooks
  obtain ⟨_, calls, settings⟩ := named_by_the_first
  have failed : (Descriptor.coerced positive).check "" (.bool true) = .error e := rfl
  have assigned : ∃ told, Setting.assign (.int (-1)) retries = .error (.type told) retries ∧
      told ≠ .badDescriptor := ⟨.wrongType "sign" "int" "positive", rfl, nofun⟩
  have pulled : ∃ told, Setting.pull (Variables.empty.insert "retries" (.bool true)) retries =
      .error (.type told) retries ∧ told ≠ .badDescriptor := by
    refine ⟨.wrongType "retries" "bool" "positive", ?_, nofun⟩
    rw [Setting.pull_of_get (v := .bool true) (by decide) (by decide) rfl]
    rfl
  obtain ⟨own, refuses, called⟩ := calls positive "" (.bool true) e failed nofun
  refine ⟨failed, ?_, ?_, ?_⟩
  · have passed : limit.argumentError? [.bool true] = none := rfl
    have fails : Builtin.Fails hooks limit.fn [.bool true] (.type e) := ⟨⟨_, rfl⟩, rfl⟩
    obtain ⟨told, outcome, _, field⟩ := called Id hooks limit [.bool true] passed fails
    refine ⟨told, outcome, ?_⟩
    cases refuses with
    | declined => exact field
    | raised raised => cases raised
  · obtain ⟨told, failed, some_place⟩ := assigned
    obtain ⟨own, refuses, field⟩ := (settings retries told (by decide) some_place).1 _ _ failed
    refine ⟨told, failed, field.trans ?_⟩
    cases refuses with
    | declined declined => cases declined
    | raised raised =>
      obtain rfl := RuleError.type.inj (Except.error.inj raised)
      rfl
  · obtain ⟨told, failed, some_place⟩ := pulled
    obtain ⟨v, own, got, refuses, field⟩ :=
      (settings retries told (by decide) some_place).2 _ _ _ failed
    refine ⟨told, failed, field.trans ?_⟩
    obtain rfl := Except.ok.inj got
    cases refuses with
    | declined => rfl
    | raised raised => cases raised

end ScriptBridge
