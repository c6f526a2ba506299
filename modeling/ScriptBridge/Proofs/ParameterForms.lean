import Mathlib.Data.Nat.Find
import ScriptBridge.Types.Contract

/-!
# Signatures and the forms of parameters

A signature keeps its leading parameters and the repeated one in different fields, while a host
function declares one list of forms. `Signature.forms` reads the list off a signature again, and
`Misplaced` says where a list has a repeated parameter with others behind it. A list without such a
place is collected into the one signature that spells it out; any other list is refused, at its first
such place.

Results:
1. `collect_single_iff`, `collect_rest_iff`: what is collected, form by form; `collect_eq_ok_iff`: the
   signature that is collected spells out the forms, and no other one does.
2. `collect_eq_error_iff`: the breach that is reported is about the first misplaced form.
3. `ofForms_settled`: both, for a whole list.
-/

namespace ScriptBridge

namespace Signature

variable {s : Signature} {form : ParamForm} {declared : List ParamForm} {returns : List ReturnKind}
  {count position i : Nat} {breach : ContractBreach}

/-! ## 1. Signatures that are collected -/

/-- The forms that a signature spells out: the leading parameters, and the repeated one behind
them. -/
def forms (s : Signature) : List ParamForm :=
  s.params.map .single ++ (s.variadic.map .rest).toList

theorem forms_eq_nil_iff : s.forms = [] ↔ s = ⟨[], none, s.returns⟩ := by
  obtain ⟨params, variadic, returns⟩ := s
  cases params <;> cases variadic <;> simp [forms]

theorem forms_eq_single_cons_iff {type : ValueType} :
    s.forms = .single type :: declared ↔
      ∃ behind : Signature, behind.forms = declared ∧
        s = { behind with params := type :: behind.params } := by
  constructor
  · intro spelled
    obtain ⟨params, variadic, returns⟩ := s
    cases params with
    | nil => cases variadic <;> cases spelled
    | cons first params =>
      obtain ⟨same, rest⟩ := List.cons.inj spelled
      cases same
      exact ⟨⟨params, variadic, returns⟩, rest, rfl⟩
  · rintro ⟨behind, rfl, rfl⟩
    rfl

/-- Nothing is behind the repeated parameter of a signature. -/
theorem forms_eq_rest_cons_iff {element : ValueType} :
    s.forms = .rest element :: declared ↔
      declared = [] ∧ s = ⟨[], some element, s.returns⟩ := by
  constructor
  · intro spelled
    obtain ⟨params, variadic, returns⟩ := s
    cases params with
    | cons first params => cases spelled
    | nil =>
      cases variadic <;> cases spelled
      exact ⟨rfl, rfl⟩
  · rintro ⟨rfl, shape⟩
    rw [shape]
    rfl

theorem collect_single_iff {type : ValueType} :
    collect count returns position (.single type :: declared) = .ok s ↔
      ∃ behind, collect count returns (position + 1) declared = .ok behind ∧
        s = { behind with params := type :: behind.params } := by
  rw [collect]
  cases collect count returns (position + 1) declared with
  | ok behind => simp [eq_comm]
  | error breach => simp

theorem collect_rest_iff {element : ValueType} :
    collect count returns position (.rest element :: declared) = .ok s ↔
      declared = [] ∧ s = ⟨[], some element, returns⟩ := by
  cases declared with
  | nil => simp [collect, eq_comm]
  | cons form declared => simp [collect]

theorem collect_eq_ok_iff :
    collect count returns position declared = .ok s ↔ s.forms = declared ∧ s.returns = returns := by
  induction declared generalizing position s with
  | nil =>
    rw [collect, forms_eq_nil_iff, Except.ok.injEq]
    constructor
    · rintro rfl
      exact ⟨rfl, rfl⟩
    · rintro ⟨empty, rfl⟩
      exact empty.symm
  | cons form declared ih =>
    cases form with
    | single type =>
      rw [collect_single_iff, forms_eq_single_cons_iff]
      constructor
      · rintro ⟨behind, collected, rfl⟩
        obtain ⟨spelled, kept⟩ := ih.mp collected
        exact ⟨⟨behind, spelled, rfl⟩, kept⟩
      · rintro ⟨⟨behind, spelled, rfl⟩, kept⟩
        exact ⟨behind, ih.mpr ⟨spelled, kept⟩, rfl⟩
    | rest element =>
      rw [collect_rest_iff, forms_eq_rest_cons_iff]
      constructor
      · rintro ⟨last, rfl⟩
        exact ⟨⟨last, rfl⟩, rfl⟩
      · rintro ⟨⟨last, shape⟩, rfl⟩
        exact ⟨last, shape⟩

theorem returns_of_collect (collected : collect count returns position declared = .ok s) :
    s.returns = returns :=
  (collect_eq_ok_iff.mp collected).2

/-! ## 2. Lists that are refused -/

/-- A repeated parameter stands at this position, and others stand behind it. -/
def Misplaced (declared : List ParamForm) (i : Nat) : Prop :=
  (∃ element, declared[i]? = some (.rest element)) ∧ i + 1 < declared.length

theorem misplaced_cons_succ_iff : Misplaced (form :: declared) (i + 1) ↔ Misplaced declared i := by
  simp [Misplaced]

theorem misplaced_cons_zero_iff :
    Misplaced (form :: declared) 0 ↔ (∃ element, form = .rest element) ∧ declared ≠ [] := by
  simp [Misplaced, List.length_pos_iff]

/-- The first position of a list that is misplaced. -/
def FirstMisplaced (declared : List ParamForm) (i : Nat) : Prop :=
  Misplaced declared i ∧ ∀ j < i, ¬ Misplaced declared j

theorem exists_firstMisplaced (misplaced : Misplaced declared i) :
    ∃ j, FirstMisplaced declared j := by
  classical
  have some_misplaced : ∃ i, Misplaced declared i := ⟨i, misplaced⟩
  exact ⟨Nat.find some_misplaced, Nat.find_spec some_misplaced, fun _ => Nat.find_min some_misplaced⟩

theorem firstMisplaced_single_cons_iff {type : ValueType} :
    FirstMisplaced (.single type :: declared) i ↔
      ∃ j, FirstMisplaced declared j ∧ i = j + 1 := by
  have well_placed : ¬ Misplaced (.single type :: declared) 0 := by
    simp [misplaced_cons_zero_iff]
  constructor
  · rintro ⟨here, first⟩
    cases i with
    | zero => exact absurd here well_placed
    | succ i =>
      refine ⟨i, ⟨misplaced_cons_succ_iff.mp here, fun j less there => ?_⟩, rfl⟩
      exact first (j + 1) (Nat.succ_lt_succ less) (misplaced_cons_succ_iff.mpr there)
  · rintro ⟨j, ⟨here, first⟩, rfl⟩
    refine ⟨misplaced_cons_succ_iff.mpr here, fun k less there => ?_⟩
    cases k with
    | zero => exact well_placed there
    | succ k => exact first k (Nat.lt_of_succ_lt_succ less) (misplaced_cons_succ_iff.mp there)

theorem firstMisplaced_rest_cons_iff {element : ValueType} :
    FirstMisplaced (.rest element :: declared) i ↔ declared ≠ [] ∧ i = 0 := by
  have here : Misplaced (.rest element :: declared) 0 ↔ declared ≠ [] := by
    simp [misplaced_cons_zero_iff]
  constructor
  · rintro ⟨misplaced, first⟩
    have others : declared ≠ [] := by
      rintro rfl
      exact absurd misplaced.2 (by simp)
    refine ⟨others, Nat.eq_zero_of_not_pos fun positive => ?_⟩
    exact first 0 positive (here.mpr others)
  · rintro ⟨others, rfl⟩
    exact ⟨here.mpr others, fun j less => absurd less (Nat.not_lt_zero j)⟩

theorem collect_eq_error_iff :
    collect count returns position declared = .error breach ↔
      ∃ i, FirstMisplaced declared i ∧ breach = .restNotLast (position + i) count := by
  induction declared generalizing position with
  | nil => simp [collect, FirstMisplaced, Misplaced]
  | cons form declared ih =>
    cases form with
    | single type =>
      have behind : collect count returns position (.single type :: declared) = .error breach ↔
          collect count returns (position + 1) declared = .error breach := by
        rw [collect]
        cases collect count returns (position + 1) declared <;> simp
      simp only [behind, ih, firstMisplaced_single_cons_iff]
      constructor
      · rintro ⟨j, first, rfl⟩
        exact ⟨j + 1, ⟨j, first, rfl⟩, by rw [Nat.add_assoc, Nat.add_comm 1]⟩
      · rintro ⟨_, ⟨j, first, rfl⟩, rfl⟩
        exact ⟨j, first, by rw [Nat.add_assoc, Nat.add_comm 1]⟩
    | rest element =>
      simp only [firstMisplaced_rest_cons_iff]
      cases declared with
      | nil => simp [collect]
      | cons form declared => simp [collect, eq_comm]

/-! ## 3. Whole lists -/

/-- A list of forms is refused if and only if a repeated parameter in it has others behind it, and
the breach names the first position where this is so and the length of the list. Otherwise the list
is collected. The signature that is collected spells out exactly the list, its leading parameters in
order and then the repeated one if it has one, and has exactly the returns that were given; it is the
only signature that does. -/
theorem ofForms_settled (declared : List ParamForm) (returns : List ReturnKind) :
    ((∃ breach, ofForms declared returns = .error breach) ↔ ∃ i, Misplaced declared i) ∧
    (∀ breach, ofForms declared returns = .error breach ↔
      ∃ i, FirstMisplaced declared i ∧ breach = .restNotLast i declared.length) ∧
    ((∃ s, ofForms declared returns = .ok s) ↔ ∀ i, ¬ Misplaced declared i) ∧
    ∀ s, ofForms declared returns = .ok s ↔ s.forms = declared ∧ s.returns = returns := by
  have refused (breach) : ofForms declared returns = .error breach ↔
      ∃ i, FirstMisplaced declared i ∧ breach = .restNotLast i declared.length := by
    rw [ofForms, collect_eq_error_iff]
    simp only [Nat.zero_add]
  have some_refused : (∃ breach, ofForms declared returns = .error breach) ↔
      ∃ i, Misplaced declared i := by
    constructor
    · rintro ⟨breach, failed⟩
      obtain ⟨i, ⟨misplaced, _⟩, _⟩ := (refused breach).mp failed
      exact ⟨i, misplaced⟩
    · rintro ⟨i, misplaced⟩
      obtain ⟨j, first⟩ := exists_firstMisplaced misplaced
      exact ⟨_, (refused _).mpr ⟨j, first, rfl⟩⟩
  refine ⟨some_refused, refused, ?_, fun s => collect_eq_ok_iff⟩
  rw [← not_exists, ← some_refused]
  cases ofForms declared returns <;> simp

/-- Of two repeated parameters it is the first one that is in the way. -/
example (type : ValueType) :
    ofForms [.single type, .rest type, .single type, .rest type] [] = .error (.restNotLast 1 4) :=
  rfl

end Signature

end ScriptBridge
