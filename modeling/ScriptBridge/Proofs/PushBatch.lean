import ScriptBridge.Proofs.RegistryLife
import ScriptBridge.Proofs.VariableScope

/-!
# Pushing a registry

A registry puts its settings into a scope in three ways (`Push`). Each visits the settings one after
the other, writes where the last ones have written already, and stops at the first name that the
scope refuses. Here the batch is told as one change at all names at once: which settings write
(`Push.writes`), what becomes of the binding of a name (`Push.Pushed`), and how far the batch gets
(`Push.Blocks`).

Results:
1. `one_eq`: one setting, on any scope that keeps variables.
2. `forM_cases`: a list of settings, up to the first that is refused.
3. `effect_intoAll`: settings of different names do not disturb each other.
4. `push_settled`: a batch on an engine, and on variables alone.
-/

namespace ScriptBridge

/-- A way of putting settings into a scope. -/
inductive Push
  | supply
  | supplyOrClear
  | impose
deriving DecidableEq

namespace Push

variable {σ : Type} [Scope σ]

/-- Pushes one setting. -/
def one : Push → Setting → EStateM SettingError σ Unit
  | supply => Setting.supply
  | supplyOrClear => Setting.supplyOrClear
  | impose => Setting.impose

/-- Pushes every setting of a registry. -/
def batch : Push → Settings → EStateM SettingError σ Unit
  | supply => Settings.supply
  | supplyOrClear => Settings.supplyOrClear
  | impose => Settings.impose

theorem batch_eq (p : Push) (r : Settings) :
    (p.batch r : EStateM SettingError σ Unit) = r.settings.forM p.one := by
  cases p <;> rfl

/-! ## What a batch comes down to -/

/-- Whether a setting with this access writes: if it may write and, where names are cleared, if it
has any access and is not required. -/
def writes : Push → Access → Bool
  | supplyOrClear, a => a.canWrite || (!a.isReserved && !a.isRequired)
  | _, a => a.canWrite

/-- What becomes of the binding of a setting's name, which `had` a value or not. -/
structure Pushed (p : Push) (s : Setting) (had : Bool) (before after : Option Value) : Prop where
  imposed : p = .impose → s.access.canWrite = true → after = some s.value
  supplied : p ≠ .impose → s.access.canWrite = true → had = false → after = some s.value
  kept : p ≠ .impose → s.access.canWrite = true → had = true → after = before
  cleared : s.access.canWrite = false → p.writes s.access = true → after = some .nil
  untouched : p.writes s.access = false → after = before

/-- A setting of this name writes, and the name is reserved. -/
def Blocks (p : Push) (r : Settings) (reserved : String → Bool) (name : String) : Prop :=
  ∃ s, r.get? name = some s ∧ p.writes s.access = true ∧ reserved name = true

/-- What becomes of all variables when the settings of some names are pushed. -/
structure Effect (p : Push) (r : Settings) (had : String → Bool) (passed : String → Prop)
    (before after : Variables) : Prop where
  pushed : ∀ name s, passed name → r.get? name = some s →
    p.Pushed s (had name) (before.table.get? name) (after.table.get? name)
  others : ∀ name, ¬ passed name ∨ r.get? name = none →
    after.table.get? name = before.table.get? name

/-! ## 1. One setting -/

/-- What is written for a setting, nil if it may not write. -/
def written (s : Setting) : Value := if s.access.canWrite then s.value else .nil

/-- Whether a setting gives way to the value that its name has. -/
def yields (p : Push) (s : Setting) (had : Bool) : Bool :=
  had && s.access.canWrite && decide (p ≠ .impose)

/-- The variables after a setting is pushed into them. -/
def into (p : Push) (s : Setting) (vars : Variables) : Variables :=
  if p.writes s.access && !p.yields s (vars.has s.name) then vars.insert s.name (written s)
  else vars

theorem writes_of_canWrite {p : Push} {a : Access} (write : a.canWrite = true) :
    p.writes a = true := by
  cases p <;> simp [writes, write]

variable [VariableScope σ]

open VariableScope

theorem store_eq (s : Setting) (v : Value) (e : σ) :
    s.store v e =
      if isReserved e s.name then .error (.scope (.isFunction s.name)) e
      else .ok () (withVars e ((vars e).insert s.name v)) := by
  unfold Setting.store EStateM.adaptExcept
  rw [set_eq]
  cases isReserved e s.name <;> rfl

theorem supply_eq (s : Setting) (write : s.access.canWrite = true) (e : σ) :
    s.supply e =
      if isReserved e s.name then .error (.scope (.isFunction s.name)) e
      else .ok () (withVars e
        (if (vars e).has s.name = false then (vars e).insert s.name s.value else vars e)) := by
  unfold Setting.supply
  rw [write, has_eq, store_eq]
  cases isReserved e s.name with
  | true => rfl
  | false => cases (vars e).has s.name <;> simp

/-- Pushing a setting is refused if the setting writes and its name is reserved, and changes nothing
but the variables otherwise. -/
theorem one_eq (p : Push) (s : Setting) (e : σ) :
    p.one s e =
      if p.writes s.access && isReserved e s.name then .error (.scope (.isFunction s.name)) e
      else .ok () (withVars e (p.into s (vars e))) := by
  cases write : s.access.canWrite with
  | true =>
    have some_access := Access.isReserved_of_includes (by decide) write
    have writing := writes_of_canWrite (p := p) write
    cases p with
    | supply => simp [one, supply_eq s write, into, writing, yields, written, write]
    | supplyOrClear =>
      simp [one, Setting.supplyOrClear, supply_eq s write, some_access, into, writing, yields,
        written, write]
    | impose => simp [one, Setting.impose, store_eq, into, writing, yields, written, write]
  | false =>
    cases p with
    | supply => simp [one, Setting.supply, into, writes, write]
    | supplyOrClear =>
      cases reserved : s.access.isReserved <;> cases required : s.access.isRequired <;>
        simp [one, Setting.supplyOrClear, store_eq, into, writes, yields, written, write, reserved,
          required]
    | impose => simp [one, Setting.impose, into, writes, write]

/-! ## 2. A list of settings -/

/-- The variables after some settings are pushed into them. -/
def intoAll (p : Push) (settings : List Setting) (vars : Variables) : Variables :=
  settings.foldl (fun vars s => p.into s vars) vars

/-- A list is pushed to its end if no setting that writes has a reserved name, and up to the first
one that does otherwise. -/
theorem forM_cases (p : Push) (settings : List Setting) (e : σ) :
    ((∀ s ∈ settings, (p.writes s.access && isReserved e s.name) = false) ∧
      settings.forM p.one e = .ok () (withVars e (p.intoAll settings (vars e)))) ∨
    ∃ before s later, settings = before ++ s :: later ∧
      (∀ t ∈ before, (p.writes t.access && isReserved e t.name) = false) ∧
      (p.writes s.access && isReserved e s.name) = true ∧
      settings.forM p.one e =
        .error (.scope (.isFunction s.name)) (withVars e (p.intoAll before (vars e))) := by
  induction settings generalizing e with
  | nil =>
    refine .inl ⟨fun s member => absurd member List.not_mem_nil, ?_⟩
    exact congrArg _ (withVars_vars e).symm
  | cons s rest ih =>
    cases blocked : p.writes s.access && isReserved e s.name with
    | true =>
      have refused : p.one s e = .error (.scope (.isFunction s.name)) e := by simp [one_eq, blocked]
      refine .inr ⟨[], s, rest, rfl, by simp, blocked, ?_⟩
      rw [forM_cons_of_error refused, intoAll, List.foldl_nil, withVars_vars]
    | false =>
      -- the rest runs on other variables, with the same names reserved
      have pushed : p.one s e = .ok () (withVars e (p.into s (vars e))) := by simp [one_eq, blocked]
      rw [forM_cons_of_ok pushed]
      rcases ih (withVars e (p.into s (vars e))) with
        ⟨free, outcome⟩ | ⟨before, t, later, rfl, free, refused, outcome⟩
      · simp only [isReserved_withVars, vars_withVars, withVars_withVars] at free outcome
        exact .inl ⟨List.forall_mem_cons.mpr ⟨blocked, free⟩, outcome⟩
      · simp only [isReserved_withVars, vars_withVars, withVars_withVars] at free refused outcome
        exact .inr ⟨s :: before, t, later, rfl, List.forall_mem_cons.mpr ⟨blocked, free⟩, refused,
          outcome⟩

/-! ## 3. Settings of different names -/

variable {p : Push} {settings : List Setting}

theorem get?_into (p : Push) (s : Setting) (vars : Variables) (name : String) :
    (p.into s vars).table.get? name =
      if s.name = name ∧ p.writes s.access = true ∧ p.yields s (vars.has s.name) = false
      then some (written s) else vars.table.get? name := by
  unfold into
  cases writing : p.writes s.access <;> cases yielding : p.yields s (vars.has s.name) <;>
    simp [Variables.insert, NameTable.get?_insert]

theorem get?_into_of_ne {s : Setting} {vars : Variables} {name : String}
    (different : s.name ≠ name) : (p.into s vars).table.get? name = vars.table.get? name := by
  simp [get?_into, different]

theorem pushed_into (p : Push) (s : Setting) (vars : Variables) :
    p.Pushed s (vars.has s.name) (vars.table.get? s.name)
      ((p.into s vars).table.get? s.name) := by
  rw [get?_into]
  refine ⟨?_, ?_, ?_, ?_, ?_⟩
  · rintro rfl write
    simp [writes_of_canWrite write, yields, written, write]
  · intro _ write absent
    simp [writes_of_canWrite write, yields, written, write, absent]
  · intro other write present
    simp [yields, write, present, other]
  · intro write writing
    simp [writing, yields, written, write]
  · intro silent
    simp [silent]

/-- Each of some settings of different names finds the variables under its own name as they were, and
leaves them so under all others. -/
theorem pushed_intoAll (distinct : (settings.map Setting.name).Nodup) (vars : Variables) :
    (∀ s ∈ settings, p.Pushed s (vars.has s.name) (vars.table.get? s.name)
      ((p.intoAll settings vars).table.get? s.name)) ∧
    ∀ name, name ∉ settings.map Setting.name →
      (p.intoAll settings vars).table.get? name = vars.table.get? name := by
  induction settings generalizing vars with
  | nil => exact ⟨fun s member => absurd member List.not_mem_nil, fun _ _ => rfl⟩
  | cons s rest ih =>
    obtain ⟨fresh, distinct⟩ := List.nodup_cons.mp distinct
    have step : p.intoAll (s :: rest) vars = p.intoAll rest (p.into s vars) := rfl
    obtain ⟨pushed, others⟩ := ih distinct (p.into s vars)
    rw [step]
    refine ⟨List.forall_mem_cons.mpr ⟨?_, ?_⟩, ?_⟩
    · rw [others s.name fresh]
      exact pushed_into p s vars
    · intro t member
      have different : s.name ≠ t.name := fun same =>
        fresh (List.mem_map.mpr ⟨t, member, same.symm⟩)
      have same : (p.into s vars).table.get? t.name = vars.table.get? t.name :=
        get?_into_of_ne different
      have behind := pushed t member
      rwa [Variables.has_congr same, same] at behind
    · intro name absent
      rw [List.map_cons, List.mem_cons, not_or] at absent
      rw [others name absent.2]
      exact get?_into_of_ne (Ne.symm absent.1)

/-! ## 4. Batches -/

/-- Whether the name had a value only matters to a setting that writes. -/
theorem Pushed.of_had {s : Setting} {had had' : Bool} {before after : Option Value}
    (pushed : p.Pushed s had before after) (same : p.writes s.access = true → had' = had) :
    p.Pushed s had' before after := by
  refine ⟨pushed.imposed, ?_, ?_, pushed.cleared, pushed.untouched⟩
  · intro other write absent
    exact pushed.supplied other write (same (writes_of_canWrite write) ▸ absent)
  · intro other write present
    exact pushed.kept other write (same (writes_of_canWrite write) ▸ present)

variable {r : Settings}

open Settings

/-- Pushing the settings of the passed names, of which none is refused, has the effect of a push. -/
theorem effect_intoAll {passed : String → Prop} {e : σ} (reached : Reached r)
    (part : settings.Sublist r.settings)
    (inside : ∀ name s, r.get? name = some s → (s ∈ settings ↔ passed name))
    (free : ∀ s ∈ settings, (p.writes s.access && isReserved e s.name) = false) :
    p.Effect r (Scope.has e) passed (vars e) (p.intoAll settings (vars e)) := by
  have distinct := (nodup_names reached).sublist (part.map Setting.name)
  obtain ⟨pushed, others⟩ := pushed_intoAll distinct (vars e)
  refine ⟨?_, ?_⟩
  · intro name s pass found
    have member := (inside name s found).mpr pass
    obtain rfl := name_of_reached reached found
    refine (pushed s member).of_had fun writing => ?_
    have unreserved := free s member
    rw [writing, Bool.true_and] at unreserved
    rw [has_eq, unreserved, Bool.not_false, Bool.true_and]
  · intro name outside
    refine others name fun named => ?_
    obtain ⟨s, member, rfl⟩ := List.mem_map.mp named
    have found := (mem_settings_iff reached).mp (part.subset member)
    rcases outside with failed | missing
    · exact failed ((inside _ s found).mp member)
    · rw [missing] at found
      cases found

/-- What a batch does to the scope: it pushes every setting if no setting that writes has a reserved
name; otherwise it fails at the least such name, having pushed the settings in front of it. -/
theorem batch_cases (reached : Reached r) (p : Push) (e : σ) :
    ((∀ name, ¬ p.Blocks r (isReserved e) name) ∧
      ∃ after, p.batch r e = .ok () (withVars e after) ∧
        p.Effect r (Scope.has e) (fun _ => True) (vars e) after) ∨
    ∃ n after, p.Blocks r (isReserved e) n ∧ (∀ name, p.Blocks r (isReserved e) name → n ≤ name) ∧
      p.batch r e = .error (.scope (.isFunction n)) (withVars e after) ∧
      p.Effect r (Scope.has e) (· < n) (vars e) after := by
  -- a blocking setting is not among those that were found free
  have unfree {settings : List Setting} {name : String} {s : Setting}
      (found : r.get? name = some s) (writing : p.writes s.access = true)
      (reserved : isReserved e name = true)
      (free : ∀ t ∈ settings, (p.writes t.access && isReserved e t.name) = false) :
      s ∉ settings := by
    intro member
    have unblocked := free s member
    rw [name_of_reached reached found, writing, reserved] at unblocked
    cases unblocked
  rw [batch_eq]
  rcases forM_cases p r.settings e with
    ⟨free, outcome⟩ | ⟨before, s, later, split, free, refused, outcome⟩
  · refine .inl ⟨?_, _, outcome, effect_intoAll reached (.refl _) ?_ free⟩
    · rintro name ⟨s, found, writing, reserved⟩
      refine unfree found writing reserved free ((mem_settings_iff reached).mpr ?_)
      rwa [name_of_reached reached found]
    · intro name s found
      refine iff_true_intro ((mem_settings_iff reached).mpr ?_)
      rwa [name_of_reached reached found]
  · rw [Bool.and_eq_true] at refused
    have own : r.get? s.name = some s := (mem_settings_iff reached).mp (by simp [split])
    refine .inr ⟨s.name, _, ⟨s, own, refused⟩, ?_, outcome,
      effect_intoAll reached ?_ (fun _ _ => mem_before_of_split reached split) free⟩
    · rintro name ⟨t, found, writing, reserved⟩
      refine String.not_lt.mp fun less => ?_
      exact unfree found writing reserved free ((mem_before_of_split reached split found).mpr less)
    · rw [split]
      exact List.sublist_append_left before _

/-- A batch that succeeds reserves no name and gives none back, has found the names free under which
it writes, and has pushed every setting. -/
theorem pushed_of_done {scope after : σ} {name : String} {s : Setting} (reached : Reached r)
    (done : p.batch r scope = .ok () after) (found : r.get? name = some s) :
    isReserved after s.name = isReserved scope s.name ∧
    (p.writes s.access = true → isReserved scope s.name = false) ∧
    p.Pushed s (Scope.has scope s.name) ((vars scope).table.get? s.name)
      ((vars after).table.get? s.name) := by
  obtain rfl := name_of_reached reached found
  rcases batch_cases reached p scope with ⟨free, left, outcome, effect⟩ | ⟨_, _, _, _, outcome, _⟩
  · obtain rfl : after = withVars scope left := by
      cases done.symm.trans outcome
      rfl
    refine ⟨isReserved_withVars scope left s.name, ?_, ?_⟩
    · intro writing
      cases reserved : isReserved scope s.name with
      | false => rfl
      | true => exact absurd ⟨s, found, writing, reserved⟩ (free s.name)
    · rw [vars_withVars]
      exact effect.pushed s.name s trivial found
  · cases done.symm.trans outcome

/-- A batch that pushes a registry into an engine, in any of the three ways. It succeeds exactly when
no setting that writes has a reserved name, and otherwise fails with the error about the least such
name. Nothing but the variables of the engine changes. Under every name in front of that one, or
under every name when the batch succeeds, the binding ends as the push of the setting of that name
says, and it is unchanged where there is no such setting; it is unchanged under that name and all
names behind it. On variables alone no name is reserved, so the batch always succeeds. -/
theorem push_settled (reached : Reached r) (p : Push) :
    (∀ {ε : Type} (e : Engine ε),
      ((∀ name, ¬ p.Blocks r e.isReserved name) ∧
        ∃ after, p.batch r e = .ok () { e with vars := after } ∧
          p.Effect r e.has (fun _ => True) e.vars after) ∨
      ∃ n after, p.Blocks r e.isReserved n ∧ (∀ name, p.Blocks r e.isReserved name → n ≤ name) ∧
        p.batch r e = .error (.scope (.isFunction n)) { e with vars := after } ∧
        p.Effect r e.has (· < n) e.vars after) ∧
    ∀ before : Variables, ∃ after, p.batch r before = .ok () after ∧
      p.Effect r before.has (fun _ => True) before after := by
  refine ⟨fun e => batch_cases reached p e, ?_⟩
  intro before
  rcases batch_cases reached p before with ⟨_, pushed⟩ | ⟨_, _, ⟨_, _, _, reserved⟩, _⟩
  · exact pushed
  · cases reserved

/-- A setting that may write, one that may only read, and one under the name of a function. -/
def outgoing : Settings :=
  Op.apply (.addInferred "shout" (.bool true) .write "")
    (Op.apply (.addInferred "host" (.string "localhost") .write "")
      (Op.apply (.add "retries" (.coerced .integer) (.int 3) .read "") .empty))

theorem outgoing_settled :
    let e : Engine Unit :=
      { Engine.new with vars := Variables.empty.insert "retries" (.int 7), reserved := ["shout"] }
    Reached outgoing ∧ ∃ after,
      supplyOrClear.batch outgoing e = .error (.scope (.isFunction "shout")) { e with vars := after } ∧
      after.table.get? "host" = some (.string "localhost") ∧
      after.table.get? "retries" = some .nil ∧ after.table.get? "shout" = none := by
  intro e
  have reached : Reached outgoing := .apply _ (.apply _ (.apply _ .empty))
  have shout : outgoing.get? "shout" = some ⟨"shout", "", .write, .exact .bool, .bool true⟩ := rfl
  have host : outgoing.get? "host" =
      some ⟨"host", "", .write, .exact .string, .string "localhost"⟩ := rfl
  have retries : outgoing.get? "retries" =
      some ⟨"retries", "", .read, .coerced .integer, .int 3⟩ := rfl
  refine ⟨reached, ?_⟩
  rcases (push_settled reached supplyOrClear).1 e with
    ⟨free, _⟩ | ⟨n, after, ⟨_, _, _, reserved⟩, _, outcome, effect⟩
  · exact absurd ⟨_, shout, by decide, by decide⟩ (free "shout")
  · have listed : ["shout"].contains n = true := reserved
    obtain rfl : n = "shout" := List.mem_singleton.mp (List.contains_iff_mem.mp listed)
    refine ⟨after, outcome, ?_, ?_, ?_⟩
    · exact (effect.pushed "host" _ (by decide) host).supplied (by decide) (by decide) (by decide)
    · exact (effect.pushed "retries" _ (by decide) retries).cleared (by decide) (by decide)
    · exact effect.others "shout" (.inl (String.lt_irrefl _))

end Push

end ScriptBridge
