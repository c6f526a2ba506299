import Mathlib.Data.List.Forall2
import ScriptBridge.Value.Same

/-!
# The equality of values

`Value.same` is what a script may rely on when it compares two values. It is no equality: a NaN
differs from itself, and so does every list that has one in it, however deep; zeros of both signs are
the same, and so are two references to one function or to one object, whatever they carry beside the
identity. It is a partial equivalence all the same. Equal values cannot be told apart by their types,
as long as references show the host type that their object has (`Value.Faithful`).

Results:
1. `Binary32.equal_iff`, `Binary64.equal_iff`: numbers of both widths are compared by one rule.
2. `same_iff`: equal values are of one kind; `induct`: induction over nested lists.
3. `same_symm`, `same_trans`, `same_self_iff`: the laws of equality.
4. `typeId_of_same`, `methods_of_same`, `accepts_congr`: what equal values have in common.
5. `same_partial_equivalence`: all of this.
-/

namespace ScriptBridge

namespace Ieee

/-! ## 1. Numbers -/

/-- Two patterns stand for one number: neither is a NaN, and they are the same pattern or zeros of
either sign. -/
def OneNumber {α : Type} (isNaN isZero : α → Bool) (x y : α) : Prop :=
  isNaN x = false ∧ isNaN y = false ∧ (x = y ∨ isZero x = true ∧ isZero y = true)

section Numbers

variable {α : Type} {isNaN isZero : α → Bool} {x y z : α}

theorem OneNumber.symm (same : OneNumber isNaN isZero x y) : OneNumber isNaN isZero y x := by
  obtain ⟨left, right, eq | ⟨zero, zero'⟩⟩ := same
  · exact ⟨right, left, .inl eq.symm⟩
  · exact ⟨right, left, .inr ⟨zero', zero⟩⟩

theorem OneNumber.trans (first : OneNumber isNaN isZero x y) (second : OneNumber isNaN isZero y z) :
    OneNumber isNaN isZero x z := by
  obtain ⟨left, _, same⟩ := first
  obtain ⟨_, right, same'⟩ := second
  refine ⟨left, right, ?_⟩
  rcases same with rfl | ⟨zero, _⟩
  · exact same'
  · rcases same' with rfl | ⟨_, zero'⟩
    · exact .inr ⟨zero, ‹_›⟩
    · exact .inr ⟨zero, zero'⟩

theorem oneNumber_self_iff : OneNumber isNaN isZero x x ↔ isNaN x = false := by
  simp [OneNumber]

end Numbers

theorem Binary32.equal_iff {x y : Binary32} :
    x.equal y = true ↔ OneNumber isNaN isZero x y := by
  obtain ⟨a⟩ := x
  obtain ⟨b⟩ := y
  simp [equal, OneNumber, and_assoc]

theorem Binary64.equal_iff {x y : Binary64} :
    x.equal y = true ↔ OneNumber isNaN isZero x y := by
  obtain ⟨a⟩ := x
  obtain ⟨b⟩ := y
  simp [equal, OneNumber, and_assoc]

end Ieee

namespace Value

/-! ## 2. Kinds of equal values -/

/-- A NaN is in the value, at any depth of its lists. -/
inductive HasNaN : Value → Prop
  | float32 {x : Ieee.Binary32} : x.isNaN = true → HasNaN (.float32 x)
  | float64 {x : Ieee.Binary64} : x.isNaN = true → HasNaN (.float64 x)
  | item {items : List Value} {v : Value} : v ∈ items → HasNaN v → HasNaN (.list items)

/-- Whether values of this kind are compared as they are. -/
def isPlain : Value → Bool
  | float32 _ | float64 _ | list _ | object _ | func _ => false
  | _ => true

/-- What it comes to that two values are equal. -/
inductive Same : Value → Value → Prop
  | plain {v : Value} : v.isPlain = true → Same v v
  | float32 {x y : Ieee.Binary32} : x.equal y = true → Same (.float32 x) (.float32 y)
  | float64 {x y : Ieee.Binary64} : x.equal y = true → Same (.float64 x) (.float64 y)
  | list {items others : List Value} :
      List.Forall₂ (fun a b => a.same b = true) items others → Same (.list items) (.list others)
  | object {o p : HostObject} : o.id = p.id → Same (.object o) (.object p)
  | func {f g : HostFn} : f.id = g.id → Same (.func f) (.func g)

theorem sameItems_iff {items others : List Value} :
    sameItems items others = true ↔ List.Forall₂ (fun a b => a.same b = true) items others := by
  induction items generalizing others with
  | nil => cases others <;> simp [sameItems]
  | cons a items ih =>
    cases others with
    | nil => simp [sameItems]
    | cons b others => simp [sameItems, ih]

theorem same_iff {a b : Value} : a.same b = true ↔ Same a b := by
  constructor
  · intro same
    unfold Value.same at same
    split at same
    case h_1 => exact .plain rfl
    case h_7 => exact .float32 same
    case h_8 => exact .float64 same
    case h_11 => exact .list (sameItems_iff.mp same)
    case h_12 => exact .object (of_decide_eq_true same)
    case h_13 => exact .func (of_decide_eq_true same)
    case h_14 => cases same
    -- the other kinds are compared as they are
    all_goals
      obtain rfl := of_decide_eq_true same
      exact .plain rfl
  · intro same
    cases same with
    | plain plain => cases a <;> simp_all [Value.same, isPlain]
    | float32 equal => simpa [Value.same] using equal
    | float64 equal => simpa [Value.same] using equal
    | list equal => simpa [Value.same, sameItems_iff] using equal
    | object one => simpa [Value.same, HostObject.same] using one
    | func one => simpa [Value.same, HostFn.same] using one

/-- Induction over nested lists: a property of values holds of all of them if it holds of every value
that is no list, and of a list whose items have it. -/
@[elab_as_elim]
theorem induct {motive : Value → Prop} (atom : ∀ v, (∀ items, v ≠ .list items) → motive v)
    (list : ∀ items, (∀ v ∈ items, motive v) → motive (.list items)) : ∀ v, motive v
  | .list items => list items fun v _ => induct atom list v
  | .nil => atom _ nofun
  | .bool _ => atom _ nofun
  | .int _ => atom _ nofun
  | .int16 _ => atom _ nofun
  | .int32 _ => atom _ nofun
  | .int64 _ => atom _ nofun
  | .float32 _ => atom _ nofun
  | .float64 _ => atom _ nofun
  | .string _ => atom _ nofun
  | .bytes _ => atom _ nofun
  | .object _ => atom _ nofun
  | .func _ => atom _ nofun

/-! ## 3. The laws of equality -/

theorem same_list_iff {items : List Value} {b : Value} :
    (list items).same b = true ↔
      ∃ others, b = .list others ∧
        List.Forall₂ (fun a b => a.same b = true) items others := by
  rw [same_iff]
  constructor
  · intro same
    cases same with
    | plain plain => cases plain
    | list equal => exact ⟨_, rfl, equal⟩
  · rintro ⟨others, rfl, equal⟩
    exact .list equal

theorem same_symm {a b : Value} (same : a.same b = true) : b.same a = true := by
  induction a using induct generalizing b with
  | atom a noList =>
    refine same_iff.mpr ?_
    cases same_iff.mp same with
    | plain plain => exact .plain plain
    | float32 equal =>
      exact .float32 (Ieee.Binary32.equal_iff.mpr (Ieee.Binary32.equal_iff.mp equal).symm)
    | float64 equal =>
      exact .float64 (Ieee.Binary64.equal_iff.mpr (Ieee.Binary64.equal_iff.mp equal).symm)
    | list => exact absurd rfl (noList _)
    | object one => exact .object one.symm
    | func one => exact .func one.symm
  | list items ih =>
    obtain ⟨others, rfl, equal⟩ := same_list_iff.mp same
    have turned : List.Forall₂ (flip fun a b => a.same b = true) items others :=
      ((List.forall₂_and_left _ _).mpr ⟨fun a mem => @ih a mem, equal⟩).imp
        fun _ _ ⟨turn, same⟩ => turn same
    exact same_list_iff.mpr ⟨items, rfl, turned.flip⟩

/-- Lists are compared item by item, so the law for the items gives that for the lists. -/
theorem sameItems_trans {items others thirds : List Value}
    (ih : ∀ a ∈ items, ∀ {b c : Value}, a.same b = true → b.same c = true → a.same c = true)
    (first : List.Forall₂ (fun a b => a.same b = true) items others)
    (second : List.Forall₂ (fun a b => a.same b = true) others thirds) :
    List.Forall₂ (fun a b => a.same b = true) items thirds := by
  induction first generalizing thirds with
  | nil =>
    cases second
    exact .nil
  | cons head _ tail_ih =>
    cases second with
    | cons head' tail' =>
      rw [List.forall_mem_cons] at ih
      exact .cons (ih.1 head head') (tail_ih ih.2 tail')

theorem same_trans {a b c : Value} (first : a.same b = true) (second : b.same c = true) :
    a.same c = true := by
  induction a using induct generalizing b c with
  | atom a noList =>
    refine same_iff.mpr ?_
    cases same_iff.mp first with
    | plain => exact same_iff.mp second
    | float32 equal =>
      cases same_iff.mp second with
      | plain plain => cases plain
      | float32 equal' =>
        have one := Ieee.Binary32.equal_iff.mp equal
        exact .float32 (Ieee.Binary32.equal_iff.mpr (one.trans (Ieee.Binary32.equal_iff.mp equal')))
    | float64 equal =>
      cases same_iff.mp second with
      | plain plain => cases plain
      | float64 equal' =>
        have one := Ieee.Binary64.equal_iff.mp equal
        exact .float64 (Ieee.Binary64.equal_iff.mpr (one.trans (Ieee.Binary64.equal_iff.mp equal')))
    | list => exact absurd rfl (noList _)
    | object one =>
      cases same_iff.mp second with
      | plain plain => cases plain
      | object one' => exact .object (one.trans one')
    | func one =>
      cases same_iff.mp second with
      | plain plain => cases plain
      | func one' => exact .func (one.trans one')
  | list items ih =>
    obtain ⟨others, rfl, equal⟩ := same_list_iff.mp first
    obtain ⟨thirds, rfl, equal'⟩ := same_list_iff.mp second
    exact same_list_iff.mpr ⟨thirds, rfl, sameItems_trans ih equal equal'⟩

theorem hasNaN_list_iff {items : List Value} :
    HasNaN (.list items) ↔ ∃ v ∈ items, v.HasNaN := by
  constructor
  · rintro (_ | _ | ⟨member, inside⟩)
    exact ⟨_, member, inside⟩
  · rintro ⟨v, member, inside⟩
    exact .item member inside

/-- A value equals itself unless a NaN is in it. -/
theorem same_self_iff {a : Value} : a.same a = true ↔ ¬ a.HasNaN := by
  induction a using induct with
  | atom a noList =>
    rw [same_iff]
    constructor
    · intro same inside
      cases inside with
      | float32 nan =>
        cases same with
        | plain plain => cases plain
        | float32 equal =>
          rw [Ieee.Binary32.equal_iff, Ieee.oneNumber_self_iff, nan] at equal
          cases equal
      | float64 nan =>
        cases same with
        | plain plain => cases plain
        | float64 equal =>
          rw [Ieee.Binary64.equal_iff, Ieee.oneNumber_self_iff, nan] at equal
          cases equal
      | item => exact noList _ rfl
    · intro clean
      cases a with
      | float32 x =>
        have number : x.isNaN = false := Bool.eq_false_iff.mpr fun nan => clean (.float32 nan)
        exact .float32 (Ieee.Binary32.equal_iff.mpr (Ieee.oneNumber_self_iff.mpr number))
      | float64 x =>
        have number : x.isNaN = false := Bool.eq_false_iff.mpr fun nan => clean (.float64 nan)
        exact .float64 (Ieee.Binary64.equal_iff.mpr (Ieee.oneNumber_self_iff.mpr number))
      | list items => exact absurd rfl (noList items)
      | object o => exact .object rfl
      | func f => exact .func rfl
      | _ => exact .plain rfl
  | list items ih =>
    simp only [same_list_iff, list.injEq, exists_eq_left', List.forall₂_same, hasNaN_list_iff,
      not_exists, not_and]
    exact forall₂_congr ih

/-! ## 4. Equal values and types -/

/-- `classOf` tells the host type of every object by its identity, and the value, if it is a reference,
shows the host type of its object. So references to one object are of one host type. -/
def Faithful (classOf : Nat → HostClass) (v : Value) : Prop :=
  ∀ o, v = .object o → o.cls = classOf o.id

section Types

variable {classOf : Nat → HostClass} {a b : Value}

/-- Equal values are of one kind, and of one host type if they are objects. -/
theorem class_of_same (left : a.Faithful classOf) (right : b.Faithful classOf)
    (same : a.same b = true) {o : HostObject} (object : a = .object o) :
    ∃ p, b = .object p ∧ o.cls = p.cls := by
  subst object
  cases same_iff.mp same with
  | plain plain => cases plain
  | @object _ p one => exact ⟨p, rfl, by rw [left o rfl, right p rfl, one]⟩

theorem typeId_of_same (left : a.Faithful classOf) (right : b.Faithful classOf)
    (same : a.same b = true) : a.typeId = b.typeId := by
  cases same_iff.mp same with
  | object =>
    obtain ⟨_, object, cls⟩ := class_of_same left right same rfl
    cases object
    exact congrArg HostClass.typeId cls
  | _ => rfl

theorem methods_of_same (left : a.Faithful classOf) (right : b.Faithful classOf)
    (same : a.same b = true) : a.methods = b.methods := by
  cases same_iff.mp same with
  | object =>
    obtain ⟨_, object, cls⟩ := class_of_same left right same rfl
    cases object
    exact congrArg HostClass.methods cls
  | _ => rfl

end Types

/-- A declared type looks at nothing in a value but its type and its methods. -/
theorem accepts_congr {a b : Value} (type : a.typeId = b.typeId) (methods : a.methods = b.methods)
    (declared : ValueType) : declared.accepts a = declared.accepts b := by
  cases declared with
  | exact => rw [ValueType.accepts, ValueType.accepts, type]
  | offering => rw [ValueType.accepts, ValueType.accepts, methods]

/-! ## 5. All together -/

/-- Equality of values is a partial equivalence that respects types:
* it is symmetric and transitive, however deep the lists are nested;
* a value equals itself if and only if no NaN is in it, at any depth;
* equal values have the same type and the same methods, and every declared type accepts both of them
  or neither, if references to one object are of one host type. -/
theorem same_partial_equivalence :
    (∀ a b : Value, a.same b = true → b.same a = true) ∧
    (∀ a b c : Value, a.same b = true → b.same c = true → a.same c = true) ∧
    (∀ a : Value, a.same a = true ↔ ¬ a.HasNaN) ∧
    ∀ (classOf : Nat → HostClass) (a b : Value), a.Faithful classOf → b.Faithful classOf →
      a.same b = true →
        a.typeId = b.typeId ∧ a.methods = b.methods ∧
          ∀ declared : ValueType, declared.accepts a = declared.accepts b := by
  refine ⟨fun _ _ => same_symm, fun _ _ _ => same_trans, fun _ => same_self_iff, ?_⟩
  intro classOf a b left right same
  have type := typeId_of_same left right same
  have methods := methods_of_same left right same
  exact ⟨type, methods, accepts_congr type methods⟩

/-- A text beside a list with a number in it. -/
def labelled (bits : UInt64) : Value := .list [.string "x", .list [.float64 ⟨bits⟩]]

/-- The host type of handles. -/
def handles : HostClass := ⟨1, .ofName "Handle", ["close"]⟩

/-- A handle, which shows in diagnostics what has become of it. -/
def handle (state : String) : Value := .object ⟨4, handles, state⟩

/-- Zeros of both signs are the same, two lists deep; a NaN there makes the value differ from itself. A
handle is the same before and after it is closed. -/
theorem zeros_and_handles_same :
    (labelled 0).same (labelled 0x8000000000000000) = true ∧
    (labelled 0x8000000000000000).same (labelled 0) = true ∧
    (labelled 0).same (labelled 0) = true ∧
    ¬ (labelled 0x7FF8000000000000).same (labelled 0x7FF8000000000000) = true ∧
    (handle "open").same (handle "closed") = true ∧
    (handle "open").methods = (handle "closed").methods ∧
    ValueType.accepts (.exact handles.typeId) (handle "open") =
      ValueType.accepts (.exact handles.typeId) (handle "closed") := by
  have zeros : (labelled 0).same (labelled 0x8000000000000000) = true := by decide
  have one : (handle "open").same (handle "closed") = true := by decide
  obtain ⟨symm, trans, reflexive, types⟩ := same_partial_equivalence
  have back := symm _ _ zeros
  have nan : (labelled 0x7FF8000000000000).HasNaN :=
    .item (.tail _ (.head _)) (.item (.head _) (.float64 (by decide)))
  have faithful (state : String) : (handle state).Faithful fun _ => handles := by
    rintro o object
    cases object
    rfl
  obtain ⟨_, methods, accepted⟩ := types _ _ _ (faithful "open") (faithful "closed") one
  exact ⟨zeros, back, trans _ _ _ zeros back, fun alike => (reflexive _).mp alike nan, one, methods,
    accepted _⟩

end Value

end ScriptBridge
