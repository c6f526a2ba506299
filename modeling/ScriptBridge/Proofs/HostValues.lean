import Mathlib.Data.List.Forall2
import ScriptBridge.Host.Result

/-!
# Declared types and host values

A host type declares a `ValueType`, which script values are checked against, and reads host values
from script values. The two have to agree. A value that is no object shows its own type, so there the
check and the reading agree unless the host type is one for objects. An object shows the type that its
host type chooses, and nothing keeps one from choosing `int`; what this leads to is said in
`Conversions`.

Results:
1. `read?_of_accepts`: a value that is no object is read where its own type is declared.
2. `accepts_toValue`: the declared type accepts the script value of every host value.
3. `raises_iff`, `outputs_fit`: the outputs of a result raise its errors and no others; those of a
   result without an error fit the declared returns one by one.
-/

namespace ScriptBridge

/-! ## 1. Reading what was accepted -/

theorem TypeId.ofName_inj {name other : String} :
    TypeId.ofName name = TypeId.ofName other ↔ name = other := by
  constructor
  · intro same
    exact congrArg TypeId.name same
  · rintro rfl
    rfl

theorem ValueType.accepts_exact_iff {type : TypeId} {v : Value} :
    (exact type).accepts v = true ↔ v.typeId = type := decide_eq_true_iff

namespace HostType

/-- The host type behind the declared one, for objects. -/
def hostClass? : HostType → Option HostClass
  | object cls => some cls
  | _ => none

theorem read?_of_accepts {t : HostType} {v : Value} (accepted : t.valueType.accepts v = true)
    (plain : t.hostClass? = none) (noObject : ∀ o, v ≠ .object o) : ∃ x, t.read? v = some x := by
  cases t with
  | any => exact ⟨v, rfl⟩
  | object cls => cases plain
  | _ =>
    have shown := ValueType.accepts_exact_iff.mp accepted
    -- every other kind of value has a type of its own, with a name of its own
    cases v <;> first
      | exact ⟨_, rfl⟩
      | exact absurd rfl (noObject _)
      | exact absurd (TypeId.ofName_inj.mp shown) (by decide)

/-! ## 2. Producing what is declared -/

theorem accepts_toValue (t : HostType) (x : t.Carrier) :
    t.valueType.accepts (t.toValue x) = true := by
  cases t with
  | any => exact Interface.metBy_anything _
  | object cls => exact ValueType.accepts_exact_iff.mpr (congrArg HostClass.typeId x.of_class)
  | _ => exact ValueType.accepts_exact_iff.mpr rfl

end HostType

/-! ## 3. The outputs of a result -/

namespace ResultShape

/-- `r.Raises x h`: the result `x` of shape `r` has the error `h` in it. -/
def Raises : (r : ResultShape) → r.Carrier → HostError → Prop
  | unit, _, _ => False
  | value _, _, _ => False
  | orError result, .ok x, h => result.Raises x h
  | orError _, .error e, h => h = e
  | pair first second, (x, y), h => first.Raises x h ∨ second.Raises y h

theorem raises_iff {r : ResultShape} {x : r.Carrier} {h : HostError} :
    .error (some h) ∈ r.outputs x ↔ r.Raises x h := by
  induction r with
  | unit => simp [outputs, Raises]
  | value type => simp [outputs, Raises]
  | orError result ih =>
    cases x with
    | ok x => simp [outputs, Raises, ih]
    | error e => simp [outputs, Raises]
  | pair first second ih₁ ih₂ => simp [outputs, Raises, ih₁, ih₂]

/-- An output that fits its declared return and raises no error. -/
inductive Fits : Output → ReturnKind → Prop
  | value {v : Value} {type : ValueType} : type.accepts v = true → Fits (.value v) (.value type)
  | silent : Fits (.error none) .error

theorem outputs_fit {r : ResultShape} {x : r.Carrier} (silent : ∀ h, ¬ r.Raises x h) :
    List.Forall₂ Fits (r.outputs x) r.returns := by
  induction r with
  | unit => exact .nil
  | value type => exact .cons (.value (HostType.accepts_toValue type x)) .nil
  | orError result ih =>
    cases x with
    | ok x => exact List.rel_append (ih silent) (.cons .silent .nil)
    | error e => exact absurd rfl (silent e)
  | pair first second ih₁ ih₂ =>
    obtain ⟨x, y⟩ := x
    exact List.rel_append (ih₁ fun h raised => silent h (.inl raised))
      (ih₂ fun h raised => silent h (.inr raised))

/-- Where a value is declared first, a result without an error produces one that is accepted. -/
theorem first_accepted {r : ResultShape} {x : r.Carrier} (silent : ∀ h, ¬ r.Raises x h)
    {type : ValueType} {returns : List ReturnKind} (first : r.returns = .value type :: returns) :
    ∃ v rest, r.outputs x = .value v :: rest ∧ type.accepts v = true := by
  have fit := outputs_fit silent
  rw [first] at fit
  generalize r.outputs x = outputs at fit
  cases fit with
  | cons fits _ =>
    cases fits with
    | value accepted => exact ⟨_, _, rfl, accepted⟩

end ResultShape

end ScriptBridge
