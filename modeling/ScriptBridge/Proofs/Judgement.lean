import ScriptBridge.Proofs.ArgumentCheck
import ScriptBridge.Proofs.SettingLife

/-!
# Two judges of values

Values are judged in two places. A call holds an argument to the declared type of its parameter, and
a setting holds what it is assigned to its descriptor, which may also be one that nothing passes,
and takes nil without a check. Where both have to do with one declared type and a value is there,
they come to the same judgement, and they tell the same two types of a value that they refuse.

Results:
1. `check_descriptor`, `check_descriptor_eq_ok_iff`: the check of a declared type's descriptor.
2. `argumentError?_single`, `assign_declared`: each judge on its own.
3. `judged_alike`: both together.
-/

namespace ScriptBridge

/-! ## 1. Descriptors of declared types -/

namespace ValueType

/-- What is told about a field whose value is not accepted. -/
def complaint (type : ValueType) (field : String) (v : Value) : TypeError :=
  match type with
  | exact type => .wrongType field v.typeName type.name
  | offering interface => .lacksMethods field v.typeName interface.name

/-- Only the exact type of nil is declared without a descriptor that can be passed. -/
theorem check_descriptor {type : ValueType} (possible : type ≠ .exact .nil) (field : String)
    (v : Value) :
    type.descriptor.check field v =
      if type.accepts v then .ok v else .error (type.complaint field v) := by
  cases type with
  | exact type =>
    have some_type : type ≠ .nil := fun nil => possible (nil ▸ rfl)
    simp [descriptor, Descriptor.check, accepts, complaint, some_type]
  | offering interface => rfl

theorem check_descriptor_nil (field : String) (v : Value) :
    (exact .nil).descriptor.check field v = .error .badDescriptor := by
  simp [descriptor, Descriptor.check]

theorem check_descriptor_eq_ok_iff {type : ValueType} (possible : type ≠ .exact .nil)
    {field : String} {v w : Value} :
    type.descriptor.check field v = .ok w ↔ type.accepts v = true ∧ w = v := by
  rw [check_descriptor possible]
  cases type.accepts v <;> simp [eq_comm]

end ValueType

/-! ## 2. Each judge on its own -/

theorem Builtin.argumentError?_single {b : Builtin} {type : ValueType}
    (params : b.signature.params = [type]) (fixed : b.signature.variadic = none) (v : Value) :
    b.argumentError? [v] =
      if type.accepts v then none
      else some (.argumentType b.name (some 0) v.typeName [type.name] b.render) := by
  have right : ¬ b.signature.WrongCount [v].length := by
    simp [Signature.WrongCount, params, fixed]
  have first : b.signature.expected? 0 = some type := by simp [Signature.expected?, params]
  rw [argumentError?_of_rightCount right, refused?, first]
  cases accepted : type.accepts v <;> simp [refused?, accepted]

theorem Setting.assign_declared {s : Setting} {type : ValueType} {v : Value}
    (declared : s.descriptor = type.descriptor) (possible : type ≠ .exact .nil)
    (present : v ≠ .nil) :
    assign v s =
      if type.accepts v then .ok () { s with value := v }
      else .error (.type (type.complaint s.name v)) s := by
  have some_value : ¬ v.isNil = true := mt (Value.isNil_iff v).mp present
  rw [assign, if_neg some_value, declared, ValueType.check_descriptor possible]
  cases type.accepts v <;> rfl

/-! ## 3. Both judges -/

/-- A builtin that is called with one value and a setting that is assigned the value judge it alike:
the call gets past its check exactly when the assignment succeeds, which then stores the very value,
and if both refuse it they tell the same type of the value and the same type that they want. -/
structure JudgedAlike (b : Builtin) (s : Setting) (v : Value) : Prop where
  passes_iff : b.argumentError? [v] = none ↔ ∃ t, Setting.assign v s = .ok () t
  stored : ∀ t, Setting.assign v s = .ok () t → t = { s with value := v }
  refused : ∀ ofCall ofSetting t, b.argumentError? [v] = some ofCall →
    Setting.assign v s = .error ofSetting t →
    ∃ got wants, ofCall = .argumentType b.name (some 0) got [wants] b.render ∧
      (ofSetting = .type (.wrongType s.name got wants) ∨
        ofSetting = .type (.lacksMethods s.name got wants))

theorem judgedAlike_of_declared {b : Builtin} {s : Setting} {type : ValueType} {v : Value}
    (possible : type ≠ .exact .nil) (params : b.signature.params = [type])
    (fixed : b.signature.variadic = none) (declared : s.descriptor = type.descriptor)
    (present : v ≠ .nil) : JudgedAlike b s v := by
  have call := Builtin.argumentError?_single params fixed v
  have assignment := Setting.assign_declared declared possible present
  cases accepted : type.accepts v with
  | true =>
    simp only [accepted, if_true] at call assignment
    refine ⟨iff_of_true call ⟨_, assignment⟩, fun t done => ?_, fun _ _ _ refused => ?_⟩
    · cases assignment.symm.trans done
      rfl
    · cases call.symm.trans refused
  | false =>
    simp only [accepted, Bool.false_eq_true, if_false] at call assignment
    refine ⟨iff_of_false ?_ ?_, fun t done => ?_, fun _ _ t refused failed => ?_⟩
    · simp [call]
    · simp [assignment]
    · cases assignment.symm.trans done
    · cases call.symm.trans refused
      cases assignment.symm.trans failed
      refine ⟨v.typeName, type.name, rfl, ?_⟩
      cases type with
      | exact type => exact .inl rfl
      | offering interface => exact .inr rfl

/-- For every declared type but the exact type of nil:
* the check of its descriptor lets through exactly the values that the type accepts, as they are;
* a builtin with one parameter of the type and a setting with its descriptor judge every value but
  nil alike, whatever their names are.

The exact type of nil gives a descriptor that no value passes, not even nil. -/
theorem judged_alike (type : ValueType) :
    (type ≠ .exact .nil →
      (∀ field v w, type.descriptor.check field v = .ok w ↔ type.accepts v = true ∧ w = v) ∧
      ∀ b s v, b.signature.params = [type] → b.signature.variadic = none →
        s.descriptor = type.descriptor → v ≠ .nil → JudgedAlike b s v) ∧
    (type = .exact .nil → ∀ field v, type.descriptor.check field v = .error .badDescriptor) := by
  refine ⟨fun possible => ⟨?_, ?_⟩, ?_⟩
  · exact fun _ _ _ => ValueType.check_descriptor_eq_ok_iff possible
  · exact fun _ _ _ params fixed declared => judgedAlike_of_declared possible params fixed declared
  · rintro rfl
    exact ValueType.check_descriptor_nil

/-- A function and a setting that take whatever can be read and closed. -/
theorem source_judged_alike :
    let stream : Interface := ⟨"io.Stream", ["read", "close"]⟩
    let source : Builtin := ⟨"source", 0, [.offering stream], none, [.error]⟩
    let input : Setting := ⟨"input", "", .read, .offering stream, .nil⟩
    let file : Value := .object ⟨0, ⟨1, .ofName "mem.File", ["read", "seek", "close"]⟩, "file"⟩
    let pipe : Value := .object ⟨1, ⟨2, .ofName "Pipe", ["read"]⟩, "pipe"⟩
    (.offering stream : ValueType) ≠ .exact .nil ∧ file ≠ .nil ∧
      Setting.assign file input = .ok () { input with value := file } ∧
      ∃ ofSetting got wants, Setting.assign pipe input = .error ofSetting input ∧
        source.argumentError? [pipe] =
          some (.argumentType "source" (some 0) got [wants] source.render) ∧
        (ofSetting = .type (.wrongType "input" got wants) ∨
          ofSetting = .type (.lacksMethods "input" got wants)) := by
  intro stream source input file pipe
  have possible : (.offering stream : ValueType) ≠ .exact .nil := nofun
  have present : file ≠ .nil := nofun
  have judged (v : Value) (present : v ≠ .nil) : JudgedAlike source input v :=
    ((judged_alike (.offering stream)).1 possible).2 source input v rfl rfl rfl present
  have passes : source.argumentError? [file] = none := by decide
  obtain ⟨t, done⟩ := (judged file present).passes_iff.mp passes
  have stored := (judged file present).stored t done
  have refused : ∃ ofCall, source.argumentError? [pipe] = some ofCall := ⟨_, rfl⟩
  have failed : ∃ ofSetting, Setting.assign pipe input = .error ofSetting input := ⟨_, rfl⟩
  obtain ⟨ofCall, refused⟩ := refused
  obtain ⟨ofSetting, failed⟩ := failed
  obtain ⟨got, wants, rfl, told⟩ := (judged pipe nofun).refused ofCall ofSetting input refused failed
  exact ⟨possible, present, stored ▸ done, ofSetting, got, wants, failed, refused, told⟩

end ScriptBridge
