import ScriptBridge.Proofs.PullBatch
import ScriptBridge.Proofs.PushBatch

/-!
# Writing and reading back

A registry that is imposed on a scope can be pulled from it again. The settings that may write have
their values there then, each under its own name, and those that may also read take them back
through their descriptors. A descriptor lets through what it has let through before, unless it is a
rule that changes its own results; so the settings end as they were.

Results:
1. `check_of_conforms`: an idempotent descriptor takes its own results as they are.
2. `pull_of_stored`: a setting is pulled from a scope that has its value.
3. `get?_pull_of_pulled`: what a batch of pulls, with any handler, leaves of such a setting.
4. `impose_pull_settled`: a registry is imposed and pulled.
-/

namespace ScriptBridge

/-! ## 1. Idempotent descriptors -/

/-- The rule answers each of its results for itself. -/
def Rule.FixesResults (r : Rule) : Prop :=
  ∀ v w, r.normalize v = .ok w → r.normalize w = .ok w

/-- The descriptor does not change what has passed it. -/
inductive Descriptor.Idempotent : Descriptor → Prop
  | exact (type : TypeId) : Idempotent (.exact type)
  | offering (interface : Interface) : Idempotent (.offering interface)
  | integer : Idempotent (.coerced .integer)
  | float : Idempotent (.coerced .float)
  | coerced {rule : Rule} : rule.FixesResults → Idempotent (.coerced rule)

theorem Rule.integer_fixesResults : Rule.integer.FixesResults := by
  intro v w normal
  obtain ⟨n, rfl⟩ := Rule.int_of_integer normal
  rfl

theorem Rule.float_fixesResults : Rule.float.FixesResults := by
  intro v w normal
  obtain ⟨x, rfl⟩ := Rule.float64_of_float normal
  rfl

theorem Descriptor.fixesResults_of_idempotent {rule : Rule}
    (idempotent : (Descriptor.coerced rule).Idempotent) : rule.FixesResults := by
  cases idempotent with
  | integer => exact Rule.integer_fixesResults
  | float => exact Rule.float_fixesResults
  | coerced fixes => exact fixes

theorem Descriptor.check_of_conforms {d : Descriptor} {field : String} {v : Value}
    (valid : d.isValid = true) (idempotent : d.Idempotent) (conforms : d.Conforms v) :
    d.check field v = .ok v := by
  cases d with
  | exact type =>
    have some_type : type ≠ .nil := by simpa [isValid] using valid
    have shown : v.typeId = type := conforms
    simp [check, some_type, shown]
  | offering interface => simp [check, (interface.metBy_iff _).mpr conforms]
  | coerced rule =>
    obtain ⟨source, normal⟩ := conforms
    exact check_coerced_eq_ok_iff.mpr (fixesResults_of_idempotent idempotent source v normal)

/-! ## 2. One setting -/

namespace Setting

/-- The setting reads what it has written: it may do both, and its descriptor can be passed by its
own value. -/
structure Mirrored (s : Setting) : Prop where
  reads : s.access.canRead = true
  writes : s.access.canWrite = true
  valid : s.descriptor.isValid = true
  idempotent : s.descriptor.Idempotent

/-- A setting takes its own value. -/
theorem assign_self {s : Setting} {name description : String} {d : Descriptor}
    (sound : Sound name description d s) (valid : s.descriptor.isValid = true)
    (idempotent : s.descriptor.Idempotent) : assign s.value s = .ok () s := by
  unfold assign
  cases absent : s.value.isNil with
  | true =>
    have empty := (Value.isNil_iff _).mp absent
    simp [← empty]
  | false =>
    have conforms : s.descriptor.Conforms s.value := by
      rcases sound.value_conforms with empty | conforms
      · rw [empty] at absent
        cases absent
      · exact sound.descriptor_kept ▸ conforms
    simp [Descriptor.check_of_conforms valid idempotent conforms]

variable {σ : Type} [Scope σ] [VariableScope σ]

open VariableScope

/-- The scope has the value of the setting under the setting's name, which is not reserved. -/
structure Stored (scope : σ) (s : Setting) : Prop where
  free : isReserved scope s.name = false
  bound : (vars scope).table.get? s.name = some s.value

/-- From a scope that has its value a setting is pulled as it is. An empty one finds nothing there,
which is an error for a required one. -/
theorem pull_of_stored {s : Setting} {scope : σ} (reads : s.access.canRead = true)
    (stored : Stored scope s) (own : assign s.value s = .ok () s) :
    Setting.pull scope s =
      if s.isEmpty && s.access.isRequired then .error (.required s.name) s else .ok () s := by
  obtain ⟨free, bound⟩ := stored
  have has : Scope.has scope s.name = !s.isEmpty := by
    rw [has_eq, free, Variables.has, bound]
    rfl
  have get : Scope.get scope s.name = .ok s.value := by
    rw [get_eq, free, Variables.get, bound]
    rfl
  unfold Setting.pull
  cases empty : s.isEmpty with
  | true => simp [reads, has, empty]
  | false => simp [reads, has, empty, get, own]

end Setting

/-- Where a registry was imposed with success, every setting that may write has its value. -/
theorem Push.stored_of_impose {σ : Type} [Scope σ] [VariableScope σ] {r : Settings} {scope after : σ}
    {name : String} {s : Setting} (reached : Settings.Reached r)
    (imposed : r.impose scope = .ok () after) (found : r.get? name = some s)
    (writes : s.access.canWrite = true) : s.Stored after := by
  obtain ⟨same, free, pushed⟩ := Push.pushed_of_done (p := .impose) reached imposed found
  refine ⟨?_, pushed.imposed rfl writes⟩
  rw [same]
  exact free (Push.writes_of_canWrite writes)

/-! ## 3. Batches -/

namespace Settings

variable {σ : Type} [Scope σ] {r : Settings} {s : Setting} {scope : σ} {name : String}

/-- A setting that its own pull leaves as it is, is so after any batch, also one that ends before it
gets there. -/
theorem get?_pull_of_pulled {η : Type} (reached : Reached r) (found : r.get? name = some s)
    (same : s.pulled scope = s) (handler : Handler η) (notes : η) :
    (leaves (pull scope handler) (r, notes)).1.get? name = some s := by
  have after : (r.pulledAll scope).get? name = some s := by
    rw [get?_pulledAll reached, found, Option.map_some, same]
  cases pullEnds reached scope handler notes with
  | completed _ outcome =>
    rw [leaves_of_ok outcome]
    exact after
  | @ended _ _ t _ _ _ _ r' _ _ _ outcome pulled kept =>
    rw [leaves_of_error outcome]
    by_cases front : name < t.name
    · exact (pulled name front).trans after
    · exact (kept name (String.not_lt.mp front)).trans found

/-- A registry that is pulled from the scope, with any handler and to its end or not, holds the
setting as it is. The setting fails to be pulled only if it is empty and required, and then with the
error about its name. -/
structure GivesBack (scope : σ) (r : Settings) (s : Setting) : Prop where
  kept : ∀ {η : Type} (handler : Handler η) (notes : η),
    (leaves (pull scope handler) (r, notes)).1.get? s.name = some s
  failed : ∀ e, (s, e) ∈ r.failures scope ↔
    s.value = .nil ∧ s.access.isRequired = true ∧ e = .required s.name

/-! ## 4. Registries -/

theorem givesBack_of_impose [VariableScope σ] {after : σ} (reached : Reached r)
    (imposed : r.impose scope = .ok () after) (found : r.get? name = some s)
    (mirrored : s.Mirrored) : GivesBack after r s := by
  obtain ⟨_, _, sound⟩ := sound_of_reached reached name s found
  have stored := Push.stored_of_impose reached imposed found mirrored.writes
  have pulled := Setting.pull_of_stored mirrored.reads stored
    (Setting.assign_self sound mirrored.valid mirrored.idempotent)
  obtain rfl := name_of_reached reached found
  refine ⟨get?_pull_of_pulled reached found ?_, fun e => ?_⟩
  · rw [Setting.pulled, leaves, pulled]
    cases s.isEmpty && s.access.isRequired <;> rfl
  · rw [mem_failures_iff reached, pulled]
    cases empty : s.isEmpty with
    | true =>
      have absent := (Value.isNil_iff _).mp empty
      cases s.access.isRequired <;> simp [found, absent, eq_comm]
    | false =>
      have present : s.value ≠ .nil := fun absent => by
        rw [Setting.isEmpty, absent] at empty
        cases empty
      simp [present]

/-- A registry is imposed on an engine, or on variables alone, and then pulled from what this leaves.
If the first succeeds, every setting that may read and write, whose descriptor is well formed and
does not change its own results, comes back as it was: the same value, down to the identity of an
object, whatever the handler does about other settings. Such a setting fails to be pulled only if it
is empty and required, and then with the error that says so. -/
theorem impose_pull_settled (reached : Reached r) :
    (∀ {ε : Type} (e after : Engine ε), r.impose e = .ok () after →
      ∀ name s, r.get? name = some s → s.Mirrored → GivesBack after r s) ∧
    ∀ vars after : Variables, r.impose vars = .ok () after →
      ∀ name s, r.get? name = some s → s.Mirrored → GivesBack after r s :=
  ⟨fun _ _ imposed _ _ found => givesBack_of_impose reached imposed found,
    fun _ _ imposed _ _ found => givesBack_of_impose reached imposed found⟩

/-- A number under a rule, a text that is required and missing, and a flag that is not read. -/
def mixed : Settings :=
  Op.apply (.addInferred "verbose" (.bool true) .write "")
    (Op.apply (.add "host" (.exact .string) .nil (.union (.union .read .write) .required) "")
      (Op.apply (.add "retries" (.coerced .integer) (.int32 3) (.union .read .write) "") .empty))

theorem mixed_given_back :
    let before := Variables.empty.insert "retries" (.string "many")
    Reached mixed ∧ ∃ after, mixed.impose before = .ok () after ∧
      (∃ s, mixed.get? "retries" = some s ∧ s.value = .int 3 ∧ s.Mirrored ∧
        GivesBack after mixed s) ∧
      ∃ s, mixed.get? "host" = some s ∧ s.Mirrored ∧
        (s, .required "host") ∈ mixed.failures after := by
  intro before
  have reached : Reached mixed := .apply _ (.apply _ (.apply _ .empty))
  have imposed : ∃ after, mixed.impose before = .ok () after := ⟨_, rfl⟩
  obtain ⟨after, imposed⟩ := imposed
  have retries : mixed.get? "retries" =
      some ⟨"retries", "", .union .read .write, .coerced .integer, .int 3⟩ := rfl
  have host : mixed.get? "host" =
      some ⟨"host", "", .union (.union .read .write) .required, .exact .string, .nil⟩ := rfl
  have integer : Setting.Mirrored ⟨"retries", "", .union .read .write, .coerced .integer, .int 3⟩ :=
    ⟨by decide, by decide, rfl, .integer⟩
  have text : Setting.Mirrored
      ⟨"host", "", .union (.union .read .write) .required, .exact .string, .nil⟩ :=
    ⟨by decide, by decide, by decide, .exact .string⟩
  have given := (impose_pull_settled reached).2 before after imposed
  refine ⟨reached, after, imposed, ⟨_, retries, rfl, integer, given _ _ retries integer⟩,
    _, host, text, ((given _ _ host text).failed _).mpr ⟨rfl, by decide, rfl⟩⟩

end Settings

end ScriptBridge
