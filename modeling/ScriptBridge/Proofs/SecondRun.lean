import ScriptBridge.Proofs.PullBatch
import ScriptBridge.Proofs.PushBatch

/-!
# Running a batch again

A batch that ends early leaves a scope or a registry half changed, and it may then be run again. It
comes to the same end: the names that were written have what would be written, the settings that were
pulled have what would be pulled, and what stopped the batch has not changed. What a setting pulls
comes from the scope and not from the setting, so it does not matter if a rule would change its own
result.

Results:
1. `one_again`, `one_apart`: a setting is pushed again, and beside another one.
2. `pull_again`, `failures_left`: a setting is pulled again, and a batch of pulls fails again as it has
   failed.
3. `pull_by_stop`, `pull_batch_again`: a batch of pulls, by the first failure that is not excused.
4. `batches_run_again`: every batch, run twice.
-/

namespace ScriptBridge

/-! ## 1. Pushing again -/

namespace Push

/-- Nothing is left to write for the setting: its name has what would be written, or the setting does
not write or gives way. -/
def Settled (p : Push) (s : Setting) (vars : Variables) : Prop :=
  p.writes s.access = true → p.yields s (vars.has s.name) = false →
    vars.table.get? s.name = some (written s)

theorem into_eq_self_iff {p : Push} {s : Setting} {vars : Variables} :
    p.into s vars = vars ↔ p.Settled s vars := by
  constructor
  · intro same writing unyielding
    rw [← same, get?_into]
    simp [writing, unyielding]
  · intro settled
    unfold into
    split
    · next writes =>
      simp only [Bool.and_eq_true, Bool.not_eq_true'] at writes
      have bound := settled writes.1 writes.2
      simp only [Variables.insert, NameTable.insert_of_get? bound]
    · rfl

theorem settled_into (p : Push) (s : Setting) (vars : Variables) :
    p.Settled s (p.into s vars) := by
  intro writing unyielding
  cases yielding : p.yields s (vars.has s.name) with
  | false =>
    rw [get?_into]
    simp [writing, yielding]
  | true =>
    -- where the setting has given way the variables are as before, and it gives way again
    have same : p.into s vars = vars := by simp [into, yielding]
    rw [same, yielding] at unyielding
    cases unyielding

/-- Whether a setting is settled depends on the binding of its name only. -/
theorem Settled.congr {p : Push} {s : Setting} {vars vars' : Variables} (settled : p.Settled s vars)
    (same : vars'.table.get? s.name = vars.table.get? s.name) : p.Settled s vars' := by
  intro writing unyielding
  rw [Variables.has_congr same] at unyielding
  rw [same]
  exact settled writing unyielding

variable {σ : Type} [Scope σ] [VariableScope σ] {p : Push} {s t : Setting}

open VariableScope

theorem one_eq_ok_iff {e e' : σ} :
    p.one s e = .ok () e' ↔
      (p.writes s.access && isReserved e s.name) = false ∧
        e' = withVars e (p.into s (vars e)) := by
  rw [one_eq]
  cases p.writes s.access && isReserved e s.name <;> simp [eq_comm]

/-- A push has no effect exactly where the setting is settled and not refused. -/
theorem one_eq_ok_self_iff {e : σ} :
    p.one s e = .ok () e ↔
      (p.writes s.access && isReserved e s.name) = false ∧ p.Settled s (vars e) := by
  rw [one_eq_ok_iff, ← into_eq_self_iff]
  refine and_congr_right fun _ => ⟨fun same => ?_, fun same => ?_⟩
  · have inside := congrArg vars same
    rw [vars_withVars] at inside
    exact inside.symm
  · rw [same, withVars_vars]

/-- A push that was done has no effect when it is done again. -/
theorem one_again {e e' : σ} (done : p.one s e = .ok () e') : p.one s e' = .ok () e' := by
  obtain ⟨free, rfl⟩ := one_eq_ok_iff.mp done
  refine one_eq_ok_self_iff.mpr ⟨?_, ?_⟩
  · rwa [isReserved_withVars]
  · rw [vars_withVars]
    exact settled_into p s (vars e)

/-- A push that was refused has changed nothing. -/
theorem unchanged_of_one_error {e e' : σ} {error : SettingError}
    (failed : p.one s e = .error error e') : e' = e := by
  rw [one_eq] at failed
  split at failed <;> cases failed
  rfl

/-- A setting of another name leaves a settled one settled. -/
theorem one_apart {e : σ} (different : s.name ≠ t.name) (settled : p.one s e = .ok () e) :
    p.one s (leaves (p.one t) e) = .ok () (leaves (p.one t) e) := by
  obtain ⟨free, settled⟩ := one_eq_ok_self_iff.mp settled
  refine one_eq_ok_self_iff.mpr ?_
  cases pushed : p.one t e with
  | error error e' =>
    obtain rfl := unchanged_of_one_error pushed
    rw [leaves_of_error pushed]
    exact ⟨free, settled⟩
  | ok _ e' =>
    obtain ⟨_, rfl⟩ := one_eq_ok_iff.mp pushed
    rw [leaves_of_ok pushed, isReserved_withVars, vars_withVars]
    exact ⟨free, settled.congr (get?_into_of_ne (Ne.symm different))⟩

theorem batch_again {r : Settings} (reached : Settings.Reached r) (p : Push) (e : σ) :
    p.batch r (leaves (p.batch r) e) = p.batch r e := by
  have settles (s : Setting) (e e' : σ) (done : p.one s e = .ok () e') : p.one s e' = .ok () e' :=
    one_again done
  have fails (s : Setting) (e : σ) (error : SettingError) (e' : σ)
      (failed : p.one s e = .error error e') : p.one s e' = .error error e' := by
    obtain rfl := unchanged_of_one_error failed
    exact failed
  have apart : r.settings.Pairwise fun s t => ∀ e : σ, p.one s e = .ok () e →
      p.one s (leaves (p.one t) e) = .ok () (leaves (p.one t) e) :=
    (List.pairwise_map.mp (Settings.nodup_names reached)).imp fun different _ => one_apart different
  rw [batch_eq]
  exact forM_again settles fails apart e

end Push

/-! ## 2. Pulling again -/

namespace Setting

theorem assign_again {v : Value} {s t : Setting} (done : assign v s = .ok () t) :
    assign v t = .ok () t := by
  unfold assign at done ⊢
  cases absent : v.isNil with
  | true =>
    simp only [absent, if_true, EStateM.Result.ok.injEq, true_and] at done ⊢
    rw [← done]
  | false =>
    cases checked : s.descriptor.check s.name v with
    | ok w =>
      -- the value in the setting plays no part in the check
      simp only [absent, checked, Bool.false_eq_true, if_false, EStateM.Result.ok.injEq,
        true_and] at done
      subst done
      simp [checked]
    | error e => simp [absent, checked] at done

variable {σ : Type} [Scope σ] {scope : σ} {s t : Setting}

/-- A pull that succeeded has no effect when it is done again, whatever the rule would make of its own
result. -/
theorem pull_again (done : pull scope s = .ok () t) : pull scope t = .ok () t := by
  cases reads : s.access.canRead with
  | false =>
    cases (pull_of_unread scope reads).symm.trans done
    exact done
  | true =>
    cases present : Scope.has scope s.name with
    | false =>
      cases required : s.access.isRequired with
      | false =>
        cases (pull_of_absent present required).symm.trans done
        exact done
      | true => cases (pull_of_missing reads present required).symm.trans done
    | true =>
      cases got : Scope.get scope s.name with
      | error e => simp [pull, reads, present, got] at done
      | ok v =>
        rw [pull_of_get reads present got] at done
        rcases assign_cases v s with ⟨w, assigned, _⟩ | ⟨e, failed⟩
        · -- the same value is got for the setting with its new value
          cases assigned.symm.trans done
          have same : pull scope { s with value := w } = assign v { s with value := w } :=
            pull_of_get reads present got
          exact same.trans (assign_again assigned)
        · cases failed.symm.trans done

theorem failure?_pulled (scope : σ) (s : Setting) :
    (s.pulled scope).failure? scope = s.failure? scope := by
  cases outcome : s.failure? scope with
  | none =>
    have again := pull_again (pull_of_no_failure outcome)
    simp [failure?, again]
  | some e => rw [pulled_of_failure outcome, outcome]

theorem pulled_pulled (scope : σ) (s : Setting) :
    (s.pulled scope).pulled scope = s.pulled scope := by
  cases outcome : s.failure? scope with
  | none => exact leaves_of_ok (pull_again (pull_of_no_failure outcome))
  | some e => rw [pulled_of_failure outcome, pulled_of_failure outcome]

end Setting

namespace Settings

variable {σ : Type} [Scope σ] {η : Type}

/-! ## 3. Batches of pulls -/

/-- The handler answers by the setting and the error alone, whatever its notes are. -/
def Handler.Steady (handler : Handler η) : Prop :=
  ∀ s e notes notes', verdict (handler s e) notes = verdict (handler s e) notes'

/-- The first failure that the handler does not excuse, with the notes given. -/
def Handler.stop? (handler : Handler η) (notes : η) (failures : List (Setting × SettingError)) :
    Option (Setting × SettingError) :=
  failures.find? fun (s, e) => !(verdict (handler s e) notes).isOk

/-- The registry that a batch of pulls leaves. -/
def left (scope : σ) (handler : Handler η) (notes : η) (r : Settings) : Settings :=
  (leaves (pull scope handler) (r, notes)).1

variable {scope : σ} {handler : Handler η} {r : Settings} {notes notes' : η}

/-- A steady handler excuses every failure of a part of the batch that has come to its end. -/
theorem isOk_of_hear (steady : handler.Steady) {failures : List (Setting × SettingError)}
    (heard : handler.hear failures notes = .ok () notes') (some_notes : η) :
    ∀ f ∈ failures, (verdict (handler f.1 f.2) some_notes).isOk = true := by
  intro f member
  obtain ⟨notes₁, notes₂, excused⟩ := exists_ok_of_forM heard member
  rw [steady f.1 f.2 some_notes notes₁, verdict_of_ok excused]
  rfl

/-- With a steady handler a batch is settled by the failures: it comes to its end if all of them are
excused, and stops at the first one that is not. -/
theorem pull_by_stop (reached : Reached r) (steady : handler.Steady) (scope : σ)
    (notes some_notes : η) :
    (handler.stop? some_notes (r.failures scope) = none ∧
      ∃ notes', pull scope handler (r, notes) = .ok () (r.pulledAll scope, notes')) ∨
    ∃ before s later e e' notes', handler.stop? some_notes (r.failures scope) = some (s, e) ∧
      verdict (handler s e) some_notes = .error e' ∧
      r.settings = before ++ s :: later ∧ s.failure? scope = some e ∧
      pull scope handler (r, notes) = .error e' (putPulled scope (before ++ [s]) r, notes') := by
  rw [pull, byName_eq reached]
  rcases pullEach_cases scope handler r.settings r notes with
    ⟨notes', heard, outcome⟩ |
    ⟨before, s, later, e, notes₁, e', notes', split, failed, heard, refused, outcome⟩
  · refine .inl ⟨List.find?_eq_none.mpr fun f member => ?_, notes', outcome⟩
    simp [isOk_of_hear steady heard some_notes f member]
  · have answer : verdict (handler s e) some_notes = .error e' := by
      rw [steady s e some_notes notes₁, verdict_of_error refused]
    refine .inr ⟨before, s, later, e, e', notes', ?_, answer, split, failed, outcome⟩
    refine List.find?_eq_some_iff_append.mpr ⟨by simp [answer, Except.isOk, Except.toBool],
      _, _, failures_of_split split failed, fun f member => ?_⟩
    simp [isOk_of_hear steady heard some_notes f member]

theorem reached_left (reached : Reached r) (scope : σ) (handler : Handler η) (notes : η) :
    Reached (r.left scope handler notes) :=
  .apply (.pull scope handler notes) reached

theorem get?_left (reached : Reached r) (scope : σ) (handler : Handler η) (notes : η)
    (name : String) :
    (r.left scope handler notes).get? name = r.get? name ∨
      (r.left scope handler notes).get? name = (r.get? name).map (Setting.pulled scope) := by
  rw [← get?_pulledAll reached]
  cases pullEnds reached scope handler notes with
  | completed _ outcome =>
    rw [left, leaves_of_ok outcome]
    exact .inr rfl
  | @ended _ _ s _ _ _ _ _ _ _ _ outcome pulled kept =>
    rw [left, leaves_of_error outcome]
    by_cases front : name < s.name
    · exact .inr (pulled name front)
    · exact .inl (kept name (String.not_lt.mp front))

/-- A batch leaves the failures as they are, in the settings that it has visited and in the others. -/
theorem failures_left (reached : Reached r) (scope : σ) (handler : Handler η) (notes : η) :
    (r.left scope handler notes).failures scope = r.failures scope := by
  have reached' := reached_left reached scope handler notes
  refine eq_of_strictlyAscending (ascending_failures reached' scope)
    (ascending_failures reached scope) ?_
  rintro ⟨s, e⟩
  rw [mem_failures_iff reached', mem_failures_iff reached]
  refine and_congr_left fun outcome => ?_
  have failed := (Setting.pull_eq_error_iff.mp outcome).1
  rcases get?_left reached scope handler notes s.name with same | pulled
  · rw [same]
  · rw [pulled, Option.map_eq_some_iff]
    constructor
    · rintro ⟨t, found, result⟩
      -- a setting that fails after its pull has failed before it, and is as it was
      have before : t.failure? scope = some e := by
        rw [← Setting.failure?_pulled, result, failed]
      rw [← result, Setting.pulled_of_failure before] at found ⊢
      exact found
    · intro found
      exact ⟨s, found, Setting.pulled_of_failure failed⟩

/-- Nothing changes when the settings put are those that are there. -/
theorem putPulled_of_pulled {settings : List Setting}
    (pulled : ∀ s ∈ settings, r.get? s.name = some s ∧ s.pulled scope = s) :
    putPulled scope settings r = r := by
  induction settings with
  | nil => rfl
  | cons s rest ih =>
    obtain ⟨found, same⟩ := pulled s List.mem_cons_self
    have put : r.put s.name (s.pulled scope) = r := by
      rw [same, Settings.put, NameTable.insert_of_get? found]
    have step : putPulled scope (s :: rest) r =
        putPulled scope rest (r.put s.name (s.pulled scope)) := rfl
    rw [step, put]
    exact ih fun t member => pulled t (List.mem_cons_of_mem _ member)

/-- A setting that stands where its pull has put it is left by its pull as it is. -/
theorem pulled_of_get? {after : Settings} {name : String} {s : Setting}
    (pulled : after.get? name = (r.get? name).map (Setting.pulled scope))
    (found : after.get? name = some s) : s.pulled scope = s := by
  rw [pulled, Option.map_eq_some_iff] at found
  obtain ⟨t, _, rfl⟩ := found
  exact Setting.pulled_pulled scope t

theorem pull_batch_again (reached : Reached r) (steady : handler.Steady) (scope : σ)
    (notes notes' : η) :
    verdict (pull scope handler) (r.left scope handler notes, notes') =
      verdict (pull scope handler) (r, notes) ∧
    (r.left scope handler notes).left scope handler notes' = r.left scope handler notes := by
  have reached' := reached_left reached scope handler notes
  have same := failures_left reached scope handler notes
  have own (t : Setting) (member : t ∈ (r.left scope handler notes).settings) :=
    (mem_settings_iff reached').mp member
  have second := pull_by_stop reached' steady scope notes' notes
  rw [same] at second
  rcases pull_by_stop reached steady scope notes notes with
    ⟨stop, _, outcome⟩ | ⟨before, s, later, e, e', _, stop, answer, split, failed, outcome⟩
  · have all : r.left scope handler notes = r.pulledAll scope :=
      congrArg Prod.fst (leaves_of_ok outcome)
    rcases second with ⟨_, _, outcome'⟩ | ⟨_, _, _, _, _, _, stop', _⟩
    · refine ⟨by rw [verdict_of_ok outcome, verdict_of_ok outcome'], ?_⟩
      rw [left, leaves_of_ok outcome']
      refine putPulled_of_pulled fun t member => ⟨own t member, ?_⟩
      have pulled : (r.left scope handler notes).get? t.name =
          (r.get? t.name).map (Setting.pulled scope) := by
        rw [all, get?_pulledAll reached]
      exact pulled_of_get? pulled (own t member)
    · cases stop.symm.trans stop'
  · have part : r.left scope handler notes = putPulled scope (before ++ [s]) r :=
      congrArg Prod.fst (leaves_of_error outcome)
    rcases second with
      ⟨stop', _⟩ | ⟨before', _, _, _, _, _, stop', answer', split', _, outcome'⟩
    · cases stop.symm.trans stop'
    · cases stop.symm.trans stop'
      cases answer.symm.trans answer'
      refine ⟨by rw [verdict_of_error outcome, verdict_of_error outcome'], ?_⟩
      rw [left, leaves_of_error outcome']
      -- both runs stop at this setting, and those in front of it were pulled in the first
      refine putPulled_of_pulled fun t member => ?_
      rcases List.mem_append.mp member with front | last
      · have found := own t (split' ▸ List.mem_append_left _ front)
        have less : t.name < s.name := (mem_before_of_split reached' split' found).mp front
        have pulled : (r.left scope handler notes).get? t.name =
            (r.get? t.name).map (Setting.pulled scope) := by
          rw [part, (get?_putPulled_before reached split failed).1 _ less, get?_pulledAll reached]
        exact ⟨found, pulled_of_get? pulled found⟩
      · obtain rfl := List.mem_singleton.mp last
        exact ⟨own t (by simp [split']), Setting.pulled_of_failure failed⟩

/-! ## 4. Every batch -/

/-- A batch on a registry that is run a second time, in the state that the first run has left, answers
the same as the first run and leaves that state as it is, also where both fail. This holds of the
three batches that push into an engine or into variables alone, with the state of the scope; and of
pulls from any scope, with the registry, for every handler whose answer depends on the setting and the
error only. The rules of the settings may be any. -/
theorem batches_run_again (reached : Reached r) :
    (∀ (p : Push) {ε : Type} (e : Engine ε),
      p.batch r (leaves (p.batch r) e) = p.batch r e) ∧
    (∀ (p : Push) (vars : Variables), p.batch r (leaves (p.batch r) vars) = p.batch r vars) ∧
    ∀ {σ : Type} [Scope σ] (scope : σ) {η : Type} (handler : Handler η), handler.Steady →
      ∀ notes notes',
        verdict (pull scope handler) (r.left scope handler notes, notes') =
          verdict (pull scope handler) (r, notes) ∧
        (r.left scope handler notes).left scope handler notes' = r.left scope handler notes :=
  ⟨fun p _ e => Push.batch_again reached p e, fun p vars => Push.batch_again reached p vars,
    fun scope _ _ steady => pull_batch_again reached steady scope⟩

/-- A rule that answers the next number. -/
def successor : Rule where
  name := "successor"
  ident := 4
  normalize
    | .int n => .ok (.int (n + 1))
    | _ => .error .declined

/-- A number under this rule, a text that has to be there, and a flag that is written. -/
def counter : Settings :=
  Op.apply (.addInferred "verbose" (.bool true) .write "")
    (Op.apply (.add "host" (.exact .string) .nil (.union .read .required) "")
      (Op.apply (.add "count" (.coerced successor) .nil .read "") .empty))

/-- The flag is refused twice, the number is counted up once, and the text is missed twice. -/
theorem counter_run_again :
    let e : Engine Unit := { Engine.new with reserved := ["verbose"] }
    let vars := Variables.empty.insert "count" (.int 1)
    let once := counter.left vars Handler.abort ()
    Reached counter ∧
      (∃ e', Push.impose.batch counter e = .error (.scope (.isFunction "verbose")) e' ∧
        Push.impose.batch counter e' = .error (.scope (.isFunction "verbose")) e') ∧
      verdict (pull vars Handler.abort) (counter, ()) = .error (.required "host") ∧
      verdict (pull vars Handler.abort) (once, ()) = .error (.required "host") ∧
      (once.get? "count").map Setting.value = some (.int 2) ∧
      once.left vars Handler.abort () = once := by
  intro e vars once
  have reached : Reached counter := .apply _ (.apply _ (.apply _ .empty))
  have steady : (Handler.abort : Handler Unit).Steady := fun _ _ _ _ => rfl
  obtain ⟨pushes, _, pulls⟩ := batches_run_again reached
  obtain ⟨same, kept⟩ := pulls vars Handler.abort steady () ()
  have verbose : counter.get? "verbose" = some ⟨"verbose", "", .write, .exact .bool, .bool true⟩ := by
    rfl
  have count : counter.get? "count" = some ⟨"count", "", .read, .coerced successor, .nil⟩ := rfl
  have failed : (counter.failures vars).map (fun (s, e) => (s.name, e)) =
      [("host", .required "host")] := rfl
  obtain ⟨⟨s, f⟩, later, split, first, _⟩ := List.map_eq_cons_iff.mp failed
  obtain ⟨host, rfl⟩ := Prod.mk.inj first
  obtain ⟨r, ended, pulled, _⟩ := (pull_abort reached vars ()).2 s _ later split
  have left : once = r := congrArg Prod.fst (leaves_of_error ended)
  have missed : verdict (pull vars Handler.abort) (counter, ()) = .error (.required "host") :=
    verdict_of_error ended
  refine ⟨reached, ?_, missed, same.trans missed, ?_, kept⟩
  · rcases (Push.push_settled reached .impose).1 e with
      ⟨free, _⟩ | ⟨n, after, ⟨_, _, _, reserved⟩, _, outcome, _⟩
    · exact absurd ⟨_, verbose, by decide, by decide⟩ (free "verbose")
    · have listed : ["verbose"].contains n = true := reserved
      obtain rfl : n = "verbose" := List.mem_singleton.mp (List.contains_iff_mem.mp listed)
      have again := pushes .impose e
      rw [leaves_of_error outcome] at again
      exact ⟨_, outcome, again.trans outcome⟩
  · rw [left, pulled "count" (host ▸ (by decide : "count" < "host")), get?_pulledAll reached, count]
    rfl

end Settings

end ScriptBridge
