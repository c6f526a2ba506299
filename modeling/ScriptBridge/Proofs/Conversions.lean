import ScriptBridge.Proofs.HostValues

/-!
# Conversions and the types that they declare

A host type checks values by the type that they show, and reads them by what they are. The two part
ways on some values: `HostType.Mistakes` lists those that pass the check of a host type without being
read by it. An object of another host type may show the declared type, and a host type may show the
type of integers, say, so that integers pass for its objects.

Results:
1. `fromValue_eq_ok_iff`, `fromValue_eq_error_iff`: what is read, and what is told about the rest.
2. `accepts_and_unread_iff`: the check and the reading part ways on the values of `Mistakes` only.
3. `conversion_exact`: all of this for every host type and every value; `int_passes_for_object`: not
   every value that is accepted and not read is an object.
-/

namespace ScriptBridge

namespace HostType

variable {t : HostType} {v : Value}

/-! ## 1. What is read -/

theorem fromValue_eq_ok_iff {x : t.Carrier} : t.fromValue v = .ok x ↔ v = t.toValue x := by
  constructor
  · intro read
    exact (toValue_of_fromValue read).symm
  · rintro rfl
    exact fromValue_toValue t x

/-- The error names the declared type and the type that the value shows. -/
theorem fromValue_eq_error_iff {e : ConversionError} :
    t.fromValue v = .error e ↔
      t.read? v = none ∧ e = .mismatch t.valueType.name v.typeName := by
  unfold fromValue
  split
  · next read => simp [read]
  · next unread => simp [unread, eq_comm]

/-! ## 2. What passes for a host value -/

/-- `t.Mistakes v`: the value shows the type that `t` declares, and is not of `t`.
* `impostor`: it is an object, of a host type other than that of `t`, if `t` is one for objects.
* `disguise`: `t` is one for objects, which show a built-in type, and the value is of this type. -/
inductive Mistakes : HostType → Value → Prop
  | impostor {t : HostType} {o : HostObject} :
      t.valueType = .exact o.cls.typeId → t.hostClass? ≠ some o.cls → Mistakes t (.object o)
  | disguise {cls : HostClass} {v : Value} :
      (∀ o, v ≠ .object o) → v.typeId = cls.typeId → Mistakes (object cls) v

theorem mistakes_of_accepts (accepted : t.valueType.accepts v = true) (unread : t.read? v = none) :
    t.Mistakes v := by
  by_cases anObject : ∃ o, v = .object o
  · obtain ⟨o, rfl⟩ := anObject
    cases t with
    | any => cases unread
    | object cls =>
      have shown : o.cls.typeId = cls.typeId := ValueType.accepts_exact_iff.mp accepted
      refine .impostor (congrArg ValueType.exact shown.symm) ?_
      intro same
      have own : o.cls = cls := (Option.some.inj same).symm
      have read : (object cls).read? (.object o) = some ⟨o, own⟩ := read?_eq_some_iff.mpr rfl
      exact absurd (unread.symm.trans read) nofun
    | _ =>
      have shown := ValueType.accepts_exact_iff.mp accepted
      exact .impostor (congrArg ValueType.exact shown.symm) nofun
  · have noObject : ∀ o, v ≠ .object o := not_exists.mp anObject
    cases t with
    | object cls => exact .disguise noObject (ValueType.accepts_exact_iff.mp accepted)
    | _ =>
      -- a value that is no object shows its own type, and is read where this type is accepted
      obtain ⟨x, read⟩ := read?_of_accepts accepted rfl noObject
      exact absurd (unread.symm.trans read) nofun

theorem accepts_of_mistakes (mistaken : t.Mistakes v) :
    t.valueType.accepts v = true ∧ t.read? v = none := by
  cases mistaken with
  | @impostor _ o declared other =>
    refine ⟨declared ▸ ValueType.accepts_exact_iff.mpr rfl,
      Option.eq_none_iff_forall_ne_some.mpr ?_⟩
    intro x read
    have value := read?_eq_some_iff.mp read
    cases t with
    | any => cases declared
    | object cls =>
      obtain rfl : o = x.ref := Value.object.inj value
      exact other (congrArg some x.of_class.symm)
    | _ => cases value
  | disguise noObject shown =>
    refine ⟨ValueType.accepts_exact_iff.mpr shown, Option.eq_none_iff_forall_ne_some.mpr ?_⟩
    intro x read
    exact noObject x.ref (read?_eq_some_iff.mp read)

/-- A value is accepted and not read if and only if it is mistaken for a host value. -/
theorem accepts_and_unread_iff :
    (t.valueType.accepts v = true ∧ ∃ e, t.fromValue v = .error e) ↔ t.Mistakes v := by
  constructor
  · rintro ⟨accepted, e, failed⟩
    exact mistakes_of_accepts accepted (fromValue_eq_error_iff.mp failed).1
  · intro mistaken
    obtain ⟨accepted, unread⟩ := accepts_of_mistakes mistaken
    exact ⟨accepted, _, fromValue_eq_error_iff.mpr ⟨unread, rfl⟩⟩

/-! ## 3. Conversions -/

/-- Conversions are exact and match what they declare, for every host type and every value:
* a value that is read is accepted by the declared type, and the way back gives the same value;
* every host value is read from its script value;
* a value that is accepted and not read is an object that shows the declared type without being of
  the host type, or it is no object and the host type, one for objects, shows the type of the value;
* an error names the declared type and the type of the value. -/
theorem conversion_exact (t : HostType) (v : Value) :
    (∀ x, t.fromValue v = .ok x → t.valueType.accepts v = true ∧ t.toValue x = v) ∧
    (∀ x, t.fromValue (t.toValue x) = .ok x) ∧
    ((t.valueType.accepts v = true ∧ ∃ e, t.fromValue v = .error e) ↔ t.Mistakes v) ∧
    ∀ e, t.fromValue v = .error e → e = .mismatch t.valueType.name v.typeName := by
  refine ⟨?read, t.fromValue_toValue, accepts_and_unread_iff,
    fun e failed => (fromValue_eq_error_iff.mp failed).2⟩
  case read =>
    intro x read
    obtain rfl : v = t.toValue x := fromValue_eq_ok_iff.mp read
    exact ⟨t.accepts_toValue x, rfl⟩

/-- Two host types show one type. An object of the second one passes the check of the first one, and
is not read; the error names the same type twice. -/
theorem twin_mistaken :
    let first : HostClass := ⟨0, .ofName "Twin", []⟩
    let second : HostClass := ⟨1, .ofName "Twin", []⟩
    let v := Value.object ⟨0, second, "Twin"⟩
    (object first).valueType.accepts v = true ∧
      (object first).fromValue v = .error (.mismatch "Twin" "Twin") := by
  intro first second v
  obtain ⟨-, -, parted, told⟩ := conversion_exact (object first) v
  have other : (object first).hostClass? ≠ some second := by
    intro same
    exact absurd (congrArg HostClass.ident (Option.some.inj same)) (by decide)
  obtain ⟨accepted, e, failed⟩ := parted.mpr (.impostor rfl other)
  exact ⟨accepted, failed.trans (congrArg Except.error (told e failed))⟩

/-- A host type shows the type of integers. An integer passes the check for its objects and is not
read, although it is no object. -/
theorem int_passes_for_object :
    let counter : HostType := object ⟨0, .int, []⟩
    counter.valueType.accepts (.int 3) = true ∧
      counter.fromValue (.int 3) = .error (.mismatch "int" "int") ∧
      ∀ o, Value.int 3 ≠ .object o :=
  ⟨ValueType.accepts_exact_iff.mpr rfl, rfl, nofun⟩

end HostType

end ScriptBridge
