import ScriptBridge.Proofs.HostValues
import ScriptBridge.Proofs.Judgement

/-!
# Settings with the type of their default

A setting can be made without a descriptor: it is held to the exact type of its default then, which
is stored without a check, since it has that type. That comes to the same as making the setting with
this descriptor, as long as values can be held to the type. The type of nil is no such type, and a
default other than nil has it if it is a host object of a class that shows itself as nil.

Results:
1. `typeId_eq_nil_iff`: which values have the type of nil.
2. `assign_own_type`, `assign_nil_type`: a value is assigned to a setting of its own type.
3. `inferred_settled`: both ways to make a setting; `handle_inferred_only`: where they differ.
-/

namespace ScriptBridge

/-! ## 1. The type of nil -/

namespace Value

/-- A host object of a class that shows the type of nil. -/
def ShowsNil (v : Value) : Prop := ∃ o, v = .object o ∧ o.cls.typeId = .nil

/-- The other kinds of values have types with names of their own. -/
theorem typeId_eq_nil_iff (v : Value) : v.typeId = .nil ↔ v = .nil ∨ v.ShowsNil := by
  cases v with
  | nil => simp [typeId]
  | object o => simp [typeId, ShowsNil]
  | _ =>
    refine iff_of_false (fun same => ?_) (by simp [ShowsNil])
    rw [typeId] at same
    exact absurd (TypeId.ofName_inj.mp same) (by decide)

end Value

/-! ## 2. Values and settings of their types -/

namespace Setting

variable {s : Setting} {v : Value}

theorem assign_own_type (own : s.descriptor = .exact v.typeId) (some_type : v.typeId ≠ .nil) :
    assign v s = .ok () { s with value := v } := by
  have possible : ValueType.exact v.typeId ≠ .exact .nil := fun same =>
    some_type (ValueType.exact.inj same)
  have present : v ≠ .nil := fun nil => some_type (nil ▸ rfl)
  have declared : s.descriptor = (ValueType.exact v.typeId).descriptor := own
  have accepted : (ValueType.exact v.typeId).accepts v = true :=
    ValueType.accepts_exact_iff.mpr rfl
  rw [assign_declared declared possible present, if_pos accepted]

theorem assign_nil_type (own : s.descriptor = .exact .nil) (present : v ≠ .nil) :
    assign v s = .error (.type .badDescriptor) s := by
  refine assign_eq_error_iff.mpr ⟨present, rfl, .badDescriptor, ?_, rfl⟩
  rw [own]
  exact ValueType.check_descriptor_nil s.name v

/-! ## 3. Making settings -/

/-- Every default but nil makes a setting that is held to the exact type of the default and stores
it. Unless the default is a host object that shows the type of nil,
* the same setting is made with that type as its descriptor;
* its descriptor is well formed;
* it takes its own default, which leaves it as it is.

For such a host object making it with the descriptor fails; the setting that was made without one
has a descriptor that is not well formed, and refuses its own default. -/
theorem inferred_settled {default : Value} (present : default ≠ .nil)
    (name description : String) (access : Access) :
    ∃ s, infer name default access description = .ok s ∧
      (s.descriptor = .exact default.typeId ∧ s.value = default) ∧
      (¬ default.ShowsNil →
        make name (.exact default.typeId) default access description = .ok s ∧
        s.descriptor.isValid = true ∧ assign default s = .ok () s) ∧
      (default.ShowsNil →
        make name (.exact default.typeId) default access description =
          .error (.type .badDescriptor) ∧
        s.descriptor.isValid = false ∧ assign default s = .error (.type .badDescriptor) s) := by
  have some_value : ¬ default.isNil = true := mt (Value.isNil_iff default).mp present
  have inferred : infer name default access description =
      .ok ⟨name, description, access, .exact default.typeId, default⟩ := if_neg some_value
  refine ⟨_, inferred, ⟨rfl, rfl⟩, fun honest => ?_, fun shows => ?_⟩
  · have some_type : default.typeId ≠ .nil := fun same =>
      ((Value.typeId_eq_nil_iff default).mp same).elim present honest
    have valid : (Descriptor.exact default.typeId).isValid = true := by
      simp [Descriptor.isValid, some_type]
    refine ⟨?_, valid, assign_own_type rfl some_type⟩
    -- an assignment to the empty setting comes to what was stored without a check
    rw [make, if_pos valid, assign_own_type rfl some_type]
  · have nil_type : default.typeId = .nil := (Value.typeId_eq_nil_iff default).mpr (.inr shows)
    have invalid : (Descriptor.exact default.typeId).isValid = false := by
      simp [Descriptor.isValid, nil_type]
    refine ⟨?_, invalid, assign_nil_type (congrArg Descriptor.exact nil_type) present⟩
    rw [make, if_neg (Bool.eq_false_iff.mp invalid)]

/-- A text, and an object that shows the type of nil. -/
theorem address_inferred :
    let handle : Value := .object ⟨0, ⟨0, .nil, []⟩, "handle"⟩
    (∃ s, infer "host" (.string "localhost") .read "" = .ok s ∧
      make "host" (.exact .string) (.string "localhost") .read "" = .ok s ∧
      assign (.string "localhost") s = .ok () s) ∧
    ∃ s, infer "handle" handle .read "" = .ok s ∧
      assign handle s = .error (.type .badDescriptor) s := by
  intro handle
  have honest : ¬ (Value.string "localhost").ShowsNil := nofun
  have shows : handle.ShowsNil := ⟨_, rfl, rfl⟩
  have present : (Value.string "localhost") ≠ .nil ∧ handle ≠ .nil := ⟨nofun, nofun⟩
  obtain ⟨s, inferred, _, made, _⟩ := inferred_settled present.1 "host" "" .read
  obtain ⟨t, inferred', _, _, refused⟩ := inferred_settled present.2 "handle" "" .read
  exact ⟨⟨s, inferred, (made honest).1, (made honest).2.2⟩, t, inferred', (refused shows).2.2⟩

/-- The exception is one: a setting is made without a descriptor, and it is not made with it. -/
theorem handle_inferred_only :
    let handle : Value := .object ⟨0, ⟨0, .nil, []⟩, "handle"⟩
    handle ≠ .nil ∧
      infer "handle" handle .read "" ≠ make "handle" (.exact handle.typeId) handle .read "" ∧
      ∃ s, infer "handle" handle .read "" = .ok s ∧ s.descriptor.isValid = false ∧
        assign handle s ≠ .ok () s := by
  intro handle
  have present : handle ≠ .nil := nofun
  have invalid : (Descriptor.exact .nil).isValid = false := by simp [Descriptor.isValid]
  let kept : Setting := ⟨"handle", "", .read, .exact .nil, handle⟩
  have inferred : infer "handle" handle .read "" = .ok kept := rfl
  have refused : make "handle" (.exact handle.typeId) handle .read "" =
      .error (.type .badDescriptor) := if_neg (Bool.eq_false_iff.mp invalid)
  have own : assign handle kept = .error (.type .badDescriptor) kept :=
    assign_nil_type rfl present
  refine ⟨present, fun same => ?_, kept, inferred, invalid, fun taken => ?_⟩
  · cases inferred.symm.trans (same.trans refused)
  · cases own.symm.trans taken

end Setting

end ScriptBridge
