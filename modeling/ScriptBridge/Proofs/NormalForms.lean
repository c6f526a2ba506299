import ScriptBridge.Proofs.RoundTrip

/-!
# Normal forms

What passes a check is in the normal form of its descriptor: checked again, under whatever field, it
passes as it is. A setting relies on this when it pulls what it has put into a scope. Only a rule can
break it, and a rule does so as soon as it changes one of its own results.

Results:
1. `isValid_of_check`, `eq_of_check`: a check that answers, and its answer without a rule.
2. `check_of_check`, `idempotent_of_checks`: the descriptors whose results are normal forms.
3. `check_integer_eq_ok_iff`, `check_float_eq_ok_iff`: the normal forms of the built-in rules.
4. `checked_again_iff`: all of this for any descriptor.
-/

namespace ScriptBridge

namespace Descriptor

variable {d : Descriptor} {rule : Rule} {field other : String} {v w : Value}

/-! ## 1. What a check answers -/

theorem isValid_of_check (passed : d.check field v = .ok w) : d.isValid = true := by
  cases d with
  | exact type =>
    by_cases nil : type = .nil
    · simp [check, nil] at passed
    · simp [isValid, nil]
  | offering interface => rfl
  | coerced rule => rfl

/-- Without a rule a check answers the value that it was given. -/
theorem eq_of_check (plain : ∀ rule, d ≠ .coerced rule) (passed : d.check field v = .ok w) :
    w = v := by
  cases d with
  | exact type =>
    simp only [check] at passed
    split at passed
    · cases passed
    · split at passed
      · exact (Except.ok.inj passed).symm
      · cases passed
  | offering interface =>
    simp only [check] at passed
    split at passed
    · exact (Except.ok.inj passed).symm
    · cases passed
  | coerced rule => exact absurd rfl (plain rule)

/-! ## 2. Checking again -/

theorem check_of_check (idempotent : d.Idempotent) (passed : d.check field v = .ok w)
    (other : String) : d.check other w = .ok w :=
  check_of_conforms (isValid_of_check passed) idempotent (conforms_of_check passed)

/-- A descriptor that takes all its results as they are is no rule that changes one. The fields of
the two checks make no difference. -/
theorem idempotent_of_checks
    (again : ∀ v w, d.check field v = .ok w → d.check other w = .ok w) : d.Idempotent := by
  cases d with
  | exact type => exact .exact type
  | offering interface => exact .offering interface
  | coerced rule =>
    refine .coerced fun v w normal => ?_
    exact check_coerced_eq_ok_iff.mp (again v w (check_coerced_eq_ok_iff.mpr normal))

end Descriptor

/-! ## 3. The built-in rules -/

namespace Value

/-- The number that an integer of any width stands for. -/
def integer? : Value → Option Int
  | int n => some n.toInt
  | int16 n => some n.toInt
  | int32 n => some n.toInt
  | int64 n => some n.toInt
  | _ => none

/-- A canonical integer is known by its number. -/
theorem int_eq_iff {n : Int64} {w : Value} :
    int n = w ↔ ∃ k : Int64, w = int k ∧ n.toInt = k.toInt := by
  constructor
  · rintro rfl
    exact ⟨n, rfl, rfl⟩
  · rintro ⟨k, rfl, same⟩
    exact congrArg int (Int64.toInt_inj.mp same)

end Value

namespace Descriptor

variable {field : String} {v w : Value}

/-- The rule for integers takes the four kinds of integers only, and answers the canonical integer of
the same number. -/
theorem check_integer_eq_ok_iff :
    (coerced .integer).check field v = .ok w ↔
      ∃ n : Int64, w = .int n ∧ v.integer? = some n.toInt := by
  rw [check_coerced_eq_ok_iff]
  cases v <;> simp [Rule.integer, Value.integer?, Value.int_eq_iff]

/-- The rule for floating point numbers takes the two precisions only. It answers a double as it is,
down to the bits of a NaN, and a single as a double. -/
theorem check_float_eq_ok_iff :
    (coerced .float).check field v = .ok w ↔
      (∃ x, v = .float64 x ∧ w = v) ∨ ∃ x : Ieee.Binary32, v = .float32 x ∧ w = .float64 x.widen := by
  rw [check_coerced_eq_ok_iff]
  cases v <;> simp [Rule.float, eq_comm]

/-! ## 4. Any descriptor -/

/-- What a descriptor answers for a value passes it as it is, under any two fields, exactly if the
descriptor is an exact type, an interface, one of the built-in rules, or a rule that answers each of
its results for itself. Exact types and interfaces answer the very value; the rule for integers takes
integers of every width and answers the canonical integer of the same number; the rule for floating
point numbers takes both precisions and answers a double, which is the value itself if that was
one. -/
theorem checked_again_iff :
    (∀ (d : Descriptor) (field other : String),
      (∀ v w, d.check field v = .ok w → d.check other w = .ok w) ↔ d.Idempotent) ∧
    (∀ (d : Descriptor) field v w, (∀ rule, d ≠ .coerced rule) → d.check field v = .ok w → w = v) ∧
    (∀ field v w, (coerced .integer).check field v = .ok w ↔
      ∃ n : Int64, w = .int n ∧ v.integer? = some n.toInt) ∧
    ∀ field v w, (coerced .float).check field v = .ok w ↔
      (∃ x, v = .float64 x ∧ w = v) ∨
        ∃ x : Ieee.Binary32, v = .float32 x ∧ w = .float64 x.widen := by
  refine ⟨fun d field other => ⟨idempotent_of_checks, ?_⟩, ?_, ?_, ?_⟩
  · exact fun idempotent v w passed => check_of_check idempotent passed other
  · exact fun _ _ _ _ => eq_of_check
  · exact fun _ _ _ => check_integer_eq_ok_iff
  · exact fun _ _ _ => check_float_eq_ok_iff

/-- A rule that answers whether a value is there. Its answer always is. -/
def presence : Rule where
  name := "presence"
  ident := 2
  normalize v := .ok (.bool (!v.isNil))

/-- A short integer, a NaN and an object under descriptors that answer normal forms, and nil under one
that does not. -/
theorem samples_checked_again :
    let nan : Value := .float64 ⟨0x7ff8000000000001⟩
    let file : Value := .object ⟨0, ⟨1, .ofName "mem.File", ["read"]⟩, "file"⟩
    let reader : Interface := ⟨"io.Reader", ["read"]⟩
    (∃ n, (coerced .integer).check "retries" (.int16 (-3)) = .ok (.int n) ∧ n.toInt = -3 ∧
      (coerced .integer).check "port" (.int n) = .ok (.int n)) ∧
    (coerced .float).check "ratio" nan = .ok nan ∧
    ((offering reader).check "input" file = .ok file ∧
      (offering reader).check "" file = .ok file) ∧
    ¬ ∀ v w, (coerced presence).check "a" v = .ok w → (coerced presence).check "b" w = .ok w := by
  intro nan file reader
  obtain ⟨again, _, integers, floats⟩ := checked_again_iff
  have short : (coerced .integer).check "retries" (.int16 (-3)) = .ok (.int (-3)) :=
    (integers _ _ _).mpr ⟨-3, rfl, by decide⟩
  have read : (offering reader).check "input" file = .ok file := rfl
  refine ⟨⟨-3, short, by decide, ?_⟩, ?_, ⟨read, ?_⟩, fun law => ?_⟩
  · exact (again _ "retries" "port").mpr .integer _ _ short
  · exact (floats _ _ _).mpr (.inl ⟨_, rfl, rfl⟩)
  · exact (again _ "input" "").mpr (.offering reader) _ _ read
  · have fixes := fixesResults_of_idempotent ((again _ "a" "b").mp law)
    -- nil is answered by false, which is a value
    have changed := fixes .nil (.bool false) rfl
    cases changed

end Descriptor

end ScriptBridge
