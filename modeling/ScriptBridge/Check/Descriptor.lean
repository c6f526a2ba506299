import ScriptBridge.Check.Rule

/-!
# Type descriptors

A `Descriptor` is what a value is held to: an exact type, an interface, or a coercion rule.
`Descriptor.check` holds a value to a descriptor and answers its normal form; only rules change the
value. The exact type of nil is not a descriptor, since an absent value stands for no value at all.

* `conforms_of_check`: what passes a check conforms to the descriptor.
-/

namespace ScriptBridge

/-- What a value is held to. -/
inductive Descriptor
  | exact (type : TypeId)
  | offering (interface : Interface)
  | coerced (rule : Rule)

namespace Descriptor

/-- The display name. -/
def name : Descriptor → String
  | exact type => type.name
  | offering interface => interface.name
  | coerced rule => rule.name

/-- A descriptor is well formed unless it is the exact type of nil. -/
def isValid : Descriptor → Bool
  | exact type => decide (type ≠ .nil)
  | _ => true

/-- Whether two descriptors are the same requirement. -/
def same : Descriptor → Descriptor → Bool
  | exact t, exact u => decide (t = u)
  | offering i, offering j => decide (i = j)
  | coerced r, coerced s => r.same s
  | _, _ => false

/-- The descriptor as it appears in diagnostics. -/
def inspect : Descriptor → String
  | exact type => "Exact(" ++ type.name ++ ")"
  | offering interface => "Implements(" ++ interface.name ++ ")"
  | coerced rule => "Coerce(" ++ rule.name ++ ")"

/-- What a value in normal form satisfies: it has the exact type, it offers every method of the
interface, or the rule answers it for some value. -/
def Conforms : Descriptor → Value → Prop
  | exact type, v => v.typeId = type
  | offering interface, v => ∀ m ∈ interface.methods, m ∈ v.methods
  | coerced rule, v => ∃ source, rule.normalize source = .ok v

/-- Holds a value to a descriptor. An error that names no field gets the name `field`. -/
def check (field : String) : Descriptor → Value → Except TypeError Value
  | exact type, v =>
    if type = .nil then .error .badDescriptor
    else if v.typeId = type then .ok v
    else .error (.wrongType field v.typeName type.name)
  | offering interface, v =>
    if interface.metBy v.methods then .ok v
    else .error (.lacksMethods field v.typeName interface.name)
  | coerced rule, v => (rule.apply v).mapError (TypeError.nameOnce field)

/-- Under a rule a check answers what the rule answers. -/
theorem check_coerced_eq_ok_iff {rule : Rule} {field : String} {v w : Value} :
    (coerced rule).check field v = .ok w ↔ rule.normalize v = .ok w := by
  simp only [check, Rule.apply]
  cases rule.normalize v with
  | ok normal =>
    constructor <;>
    · intro answered
      cases answered
      rfl
  | error raised =>
    refine iff_of_false ?_ nofun
    cases raised <;> nofun

theorem conforms_of_check {d : Descriptor} {field : String} {v w : Value}
    (h : d.check field v = .ok w) : d.Conforms w := by
  cases d with
  | exact type =>
    simp only [check] at h
    split at h
    · cases h
    · split at h
      · next hv => cases h; exact hv
      · cases h
  | offering interface =>
    simp only [check] at h
    split at h
    · next hv => cases h; exact (interface.metBy_iff _).mp hv
    · cases h
  | coerced rule => exact ⟨v, check_coerced_eq_ok_iff.mp h⟩

end Descriptor

/-- The descriptor that requires what a declared type requires. -/
def ValueType.descriptor : ValueType → Descriptor
  | exact type => .exact type
  | offering interface => .offering interface

end ScriptBridge
