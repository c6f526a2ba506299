import ScriptBridge.Proofs.RegistryLife

/-!
# Pulling a registry

A registry pulls its settings one after the other and gives each failure to a handler, which keeps
notes of its own and may end the batch. Here the batch is told without the traversal: every setting
is pulled on its own (`Settings.pulledAll`), the handler hears the failures in ascending order of
names (`Settings.failures`, `Handler.hear`), and where it ends the batch the settings from that one
on are as they were (`Settings.PullEnds`).

Results:
1. `pullEach_cases`: what the traversal of a list does, for any handler.
2. `get?_putPulled`: every name is pulled on its own.
3. `pull_settled`: a batch on a registry, and the three handlers compared.
-/

namespace ScriptBridge

namespace Settings

variable {σ : Type} [Scope σ] {η : Type}

/-! ## What a batch comes down to -/

/-- The settings of a list that fail to pull, each with its error. -/
def failuresOf (scope : σ) (settings : List Setting) : List (Setting × SettingError) :=
  settings.filterMap fun s => (s.failure? scope).map fun e => (s, e)

/-- The settings that fail to pull, in the order of their names, each with its error. -/
def failures (scope : σ) (r : Settings) : List (Setting × SettingError) :=
  failuresOf scope r.settings

/-- Gives failures to a handler one after the other, until it ends the batch. -/
def Handler.hear (handler : Handler η) (failures : List (Setting × SettingError)) :
    EStateM SettingError η Unit :=
  failures.forM fun (s, e) => handler s e

/-- The handler lets every batch go on. -/
def Handler.Lenient (handler : Handler η) : Prop :=
  ∀ s e notes, ∃ notes', handler s e notes = .ok () notes'

/-- A registry in which some settings are replaced by what their own pulls leave. -/
def putPulled (scope : σ) (settings : List Setting) (r : Settings) : Settings :=
  settings.foldl (fun r s => r.put s.name (s.pulled scope)) r

/-- The registry in which every setting is replaced by what its own pull leaves. -/
def pulledAll (scope : σ) (r : Settings) : Settings := putPulled scope r.settings r

/-- How a batch of pulls ends. Either the handler hears every failure and lets the batch go on, and
every setting ends as its own pull leaves it; or the handler answers a failure with an error, which
is the error of the batch, and every setting in front of that one ends as its own pull leaves it
while that one and all behind it are unchanged. -/
inductive PullEnds (scope : σ) (handler : Handler η) (r : Settings) (notes : η) : Prop
  | completed {notes' : η} :
      handler.hear (r.failures scope) notes = .ok () notes' →
      pull scope handler (r, notes) = .ok () (r.pulledAll scope, notes') →
      PullEnds scope handler r notes
  | ended {before later : List (Setting × SettingError)} {s : Setting} {e e' : SettingError}
      {notes₁ notes' : η} {r' : Settings} :
      r.failures scope = before ++ (s, e) :: later →
      handler.hear before notes = .ok () notes₁ → handler s e notes₁ = .error e' notes' →
      pull scope handler (r, notes) = .error e' (r', notes') →
      (∀ name, name < s.name → r'.get? name = (r.pulledAll scope).get? name) →
      (∀ name, s.name ≤ name → r'.get? name = r.get? name) →
      PullEnds scope handler r notes

/-! ## 1. The traversal -/

variable {scope : σ} {handler : Handler η} {s : Setting} {settings rest : List Setting}
  {r : Settings} {notes notes' : η} {e : SettingError}

theorem failuresOf_cons_of_pulled (pulled : s.failure? scope = none) :
    failuresOf scope (s :: rest) = failuresOf scope rest := by
  simp [failuresOf, pulled]

theorem failuresOf_cons_of_failed (failed : s.failure? scope = some e) :
    failuresOf scope (s :: rest) = (s, e) :: failuresOf scope rest := by
  simp [failuresOf, failed]

theorem hear_cons_of_excused {behind : List (Setting × SettingError)}
    (excused : handler s e notes = .ok () notes') :
    handler.hear ((s, e) :: behind) notes = handler.hear behind notes' :=
  forM_cons_of_ok excused

/-- At its first setting the traversal goes on as if it began behind it, or the handler ends it. -/
theorem pullEach_step (scope : σ) (handler : Handler η) (s : Setting) (r : Settings) (notes : η) :
    (∃ notes₁,
      (∀ behind, handler.hear (failuresOf scope (s :: behind)) notes =
        handler.hear (failuresOf scope behind) notes₁) ∧
      ∀ items, pullEach scope handler ((s.name, s) :: items) (r, notes) =
        pullEach scope handler items (r.put s.name (s.pulled scope), notes₁)) ∨
    ∃ e e' notes', s.failure? scope = some e ∧ handler s e notes = .error e' notes' ∧
      ∀ items, pullEach scope handler ((s.name, s) :: items) (r, notes) =
        .error e' (r.put s.name (s.pulled scope), notes') := by
  cases outcome : s.failure? scope with
  | none =>
    refine .inl ⟨notes, ?_, fun _ => pullEach_of_pulled outcome⟩
    intro behind
    rw [failuresOf_cons_of_pulled outcome]
  | some e =>
    cases answer : handler s e notes with
    | ok u notes₁ =>
      refine .inl ⟨notes₁, ?_, fun _ => pullEach_of_excused outcome answer⟩
      intro behind
      rw [failuresOf_cons_of_failed outcome, hear_cons_of_excused answer]
    | error e' notes' =>
      exact .inr ⟨e, e', notes', rfl, answer, fun _ => pullEach_of_ended outcome answer⟩

/-- The traversal comes to its end if the handler lets it, and stops at the first failure to which
the handler answers an error. -/
theorem pullEach_cases (scope : σ) (handler : Handler η) (settings : List Setting) (r : Settings)
    (notes : η) :
    (∃ notes', handler.hear (failuresOf scope settings) notes = .ok () notes' ∧
      pullEach scope handler (settings.map fun s => (s.name, s)) (r, notes) =
        .ok () (putPulled scope settings r, notes')) ∨
    ∃ before s later e notes₁ e' notes', settings = before ++ s :: later ∧
      s.failure? scope = some e ∧
      handler.hear (failuresOf scope before) notes = .ok () notes₁ ∧
      handler s e notes₁ = .error e' notes' ∧
      pullEach scope handler (settings.map fun s => (s.name, s)) (r, notes) =
        .error e' (putPulled scope (before ++ [s]) r, notes') := by
  induction settings generalizing r notes with
  | nil => exact .inl ⟨notes, rfl, rfl⟩
  | cons s rest ih =>
    rw [List.map_cons]
    rcases pullEach_step scope handler s r notes with
      ⟨notes₁, heard, step⟩ | ⟨e, e', notes', failed, refused, step⟩
    · rw [step, heard]
      refine (ih (r.put s.name (s.pulled scope)) notes₁).imp id ?_
      rintro ⟨before, t, later, e, notes₂, e', notes', rfl, failed, before_heard, refused, ended⟩
      exact ⟨s :: before, t, later, e, notes₂, e', notes', rfl, failed,
        (heard before).trans before_heard, refused, ended⟩
    · exact .inr ⟨[], s, rest, e, notes, e', notes', rfl, failed, rfl, refused, step _⟩

/-! ## 2. Every setting on its own -/

/-- What is put for one setting is seen under its name only. -/
theorem get?_putPulled {name : String} (distinct : (settings.map Setting.name).Nodup)
    (own : ∀ s ∈ settings, r.get? s.name = some s) :
    (putPulled scope settings r).get? name =
      if name ∈ settings.map Setting.name then (r.get? name).map (Setting.pulled scope)
      else r.get? name := by
  induction settings generalizing r with
  | nil => rfl
  | cons s rest ih =>
    obtain ⟨fresh, distinct⟩ := List.nodup_cons.mp distinct
    have put (other : String) := get?_put r s.name other (s.pulled scope)
    have behind : ∀ t ∈ rest, (r.put s.name (s.pulled scope)).get? t.name = some t := by
      intro t member
      have different : s.name ≠ t.name := fun same =>
        fresh (List.mem_map.mpr ⟨t, member, same.symm⟩)
      rw [put, if_neg different]
      exact own t (List.mem_cons_of_mem _ member)
    have tail : (putPulled scope (s :: rest) r).get? name = _ := ih distinct behind
    rw [tail, put]
    by_cases same : s.name = name
    · subst same
      simp [fresh, own s List.mem_cons_self]
    · simp [same, Ne.symm same]

theorem get?_pulledAll (reached : Reached r) (name : String) :
    (r.pulledAll scope).get? name = (r.get? name).map (Setting.pulled scope) := by
  have own (s) (member : s ∈ r.settings) := (mem_settings_iff reached).mp member
  rw [pulledAll, get?_putPulled (nodup_names reached) own]
  split
  · rfl
  · next absent =>
    cases found : r.get? name with
    | none => rfl
    | some s =>
      obtain rfl := name_of_reached reached found
      exact absurd (List.mem_map_of_mem ((mem_settings_iff reached).mpr found)) absent

/-! ## 3. Batches -/

/-- Where a batch stops, the settings in front are pulled and the others are not. The one that it
stops at failed, so what is put for it is what was there. -/
theorem get?_putPulled_before (reached : Reached r) {before later : List Setting}
    (split : r.settings = before ++ s :: later) (failed : s.failure? scope = some e) :
    (∀ name, name < s.name →
      (putPulled scope (before ++ [s]) r).get? name = (r.pulledAll scope).get? name) ∧
    ∀ name, s.name ≤ name → (putPulled scope (before ++ [s]) r).get? name = r.get? name := by
  have part : before.Sublist r.settings := split ▸ List.sublist_append_left before _
  have own (t) (member : t ∈ r.settings) := (mem_settings_iff reached).mp member
  have distinct := (nodup_names reached).sublist (part.map Setting.name)
  have put (name : String) : (putPulled scope (before ++ [s]) r).get? name =
      if s.name = name then some s
      else if name ∈ before.map Setting.name then (r.get? name).map (Setting.pulled scope)
      else r.get? name := by
    have last : putPulled scope (before ++ [s]) r =
        (putPulled scope before r).put s.name (s.pulled scope) := List.foldl_append
    rw [last, get?_put, Setting.pulled_of_failure failed,
      get?_putPulled distinct fun t member => own t (part.subset member)]
  refine ⟨?_, ?_⟩
  · intro name less
    have different : s.name ≠ name := fun same => String.lt_irrefl name (same ▸ less)
    rw [put, if_neg different, get?_pulledAll reached]
    cases found : r.get? name with
    | none => simp
    | some t =>
      have front : t ∈ before := (mem_before_of_split reached split found).mpr less
      obtain rfl := name_of_reached reached found
      rw [if_pos (List.mem_map_of_mem front)]
  · intro name least
    rw [put]
    by_cases same : s.name = name
    · rw [if_pos same, ← same]
      exact (own s (by simp [split])).symm
    · have behind : name ∉ before.map Setting.name := by
        intro member
        obtain ⟨t, front, rfl⟩ := List.mem_map.mp member
        have found : r.get? t.name = some t := own t (part.subset front)
        exact String.not_le.mpr ((mem_before_of_split reached split found).mp front) least
      rw [if_neg same, if_neg behind]

/-- The failures in front of one that fails, and those behind it. -/
theorem failures_of_split {before later : List Setting}
    (split : r.settings = before ++ s :: later) (failed : s.failure? scope = some e) :
    r.failures scope = failuresOf scope before ++ (s, e) :: failuresOf scope later := by
  rw [failures, split, ← failuresOf_cons_of_failed failed]
  exact List.filterMap_append

theorem pullEnds (reached : Reached r) (scope : σ) (handler : Handler η) (notes : η) :
    PullEnds scope handler r notes := by
  rcases pullEach_cases scope handler r.settings r notes with
    ⟨notes', heard, outcome⟩ |
    ⟨before, s, later, e, notes₁, e', notes', split, failed, heard, refused, outcome⟩
  · refine .completed heard ?_
    rw [pull, byName_eq reached]
    exact outcome
  · obtain ⟨pulled, kept⟩ := get?_putPulled_before reached split failed
    refine .ended (failures_of_split split failed) heard refused ?_ pulled kept
    rw [pull, byName_eq reached]
    exact outcome

theorem mem_failures_iff (reached : Reached r) :
    (s, e) ∈ r.failures scope ↔ r.get? s.name = some s ∧ Setting.pull scope s = .error e s := by
  simp only [failures, failuresOf, List.mem_filterMap, Option.map_eq_some_iff, Prod.mk.injEq,
    mem_settings_iff reached, Setting.pull_eq_error_iff, and_true]
  constructor
  · rintro ⟨t, found, e', failed, rfl, rfl⟩
    exact ⟨found, failed⟩
  · rintro ⟨found, failed⟩
    exact ⟨s, found, e, failed, rfl, rfl⟩

theorem ascending_failures (reached : Reached r) (scope : σ) :
    ((r.failures scope).map fun (s, _) => s.name).Pairwise (· < ·) := by
  refine List.pairwise_map.mpr (List.pairwise_filterMap.mpr ?_)
  refine (List.pairwise_map.mp (ascending_settings reached)).imp ?_
  intro s t less failed f failed' f'
  obtain ⟨e, _, rfl⟩ := Option.map_eq_some_iff.mp f
  obtain ⟨e', _, rfl⟩ := Option.map_eq_some_iff.mp f'
  exact less

theorem hear_of_lenient (lenient : handler.Lenient) (failures : List (Setting × SettingError))
    (notes : η) : ∃ notes', handler.hear failures notes = .ok () notes' := by
  induction failures generalizing notes with
  | nil => exact ⟨notes, rfl⟩
  | cons failure rest ih =>
    obtain ⟨s, e⟩ := failure
    obtain ⟨notes₁, excused⟩ := lenient s e notes
    rw [hear_cons_of_excused excused]
    exact ih notes₁

/-- A handler that always lets the batch go on hears every failure. -/
theorem pull_of_lenient (reached : Reached r) (lenient : handler.Lenient)
    (heard : handler.hear (r.failures scope) notes = .ok () notes') :
    pull scope handler (r, notes) = .ok () (r.pulledAll scope, notes') := by
  cases pullEnds reached scope handler notes with
  | completed heard' outcome =>
    rw [heard] at heard'
    cases heard'
    exact outcome
  | @ended _ _ s e _ notes₁ _ _ _ _ refused =>
    obtain ⟨_, excused⟩ := lenient s e notes₁
    rw [excused] at refused
    cases refused

theorem hear_skip (failures : List (Setting × SettingError)) (notes : η) :
    Handler.hear Handler.skip failures notes = .ok () notes := by
  induction failures with
  | nil => rfl
  | cons failure rest ih => exact (hear_cons_of_excused rfl).trans ih

theorem hear_record (failures : List (Setting × SettingError)) (errors : List SettingError) :
    Handler.record.hear failures errors = .ok () (errors ++ failures.map Prod.snd) := by
  induction failures generalizing errors with
  | nil => rw [List.map_nil, List.append_nil]; rfl
  | cons failure rest ih =>
    obtain ⟨s, e⟩ := failure
    have heard : Handler.record.hear ((s, e) :: rest) errors =
        Handler.record.hear rest (errors ++ [e]) := hear_cons_of_excused rfl
    rw [heard, ih, List.append_assoc]
    rfl

theorem pull_record (reached : Reached r) (scope : σ) (errors : List SettingError) :
    pull scope Handler.record (r, errors) =
      .ok () (r.pulledAll scope, errors ++ (r.failures scope).map Prod.snd) :=
  pull_of_lenient reached (fun _ _ _ => ⟨_, rfl⟩) (hear_record _ errors)

theorem pull_skip (reached : Reached r) (scope : σ) (notes : η) :
    pull scope Handler.skip (r, notes) = .ok () (r.pulledAll scope, notes) :=
  pull_of_lenient reached (fun _ _ _ => ⟨_, rfl⟩) (hear_skip _ notes)

/-- The handler that ends the batch hears the first failure only. -/
theorem pull_abort (reached : Reached r) (scope : σ) (notes : η) :
    (r.failures scope = [] →
      pull scope Handler.abort (r, notes) = .ok () (r.pulledAll scope, notes)) ∧
    ∀ s e later, r.failures scope = (s, e) :: later →
      ∃ r', pull scope Handler.abort (r, notes) = .error e (r', notes) ∧
        (∀ name, name < s.name → r'.get? name = (r.pulledAll scope).get? name) ∧
        ∀ name, s.name ≤ name → r'.get? name = r.get? name := by
  cases pullEnds reached scope Handler.abort notes with
  | completed heard outcome =>
    refine ⟨?_, ?_⟩
    · intro none
      rw [none] at heard
      cases heard
      exact outcome
    · intro s e later first
      rw [first] at heard
      cases heard
  | @ended before later s e _ _ _ r' split heard refused outcome pulled kept =>
    cases refused
    cases before with
    | nil =>
      cases heard
      refine ⟨fun none => ?_, ?_⟩
      · rw [none] at split
        cases split
      · intro t f behind first
        rw [first] at split
        cases split
        exact ⟨r', outcome, pulled, kept⟩
    | cons failure before => cases heard

/-- A batch of pulls on a registry, from any scope. The settings are visited in strictly ascending
order of their names, and all of them are; so are the failures, each setting that fails giving one.
A pull that fails leaves the setting as it is. For any handler the batch ends as `PullEnds` says.
Hence the handler that records lets the batch succeed, gets exactly one error for each failing
setting in ascending order of names, and leaves every setting as its own pull does; the handler that
skips leaves the same settings; and the handler that aborts ends the batch with the first error that
would be recorded, if there is one: the settings in front of it end as they do under the other
handlers, and the others are those of the original registry. -/
theorem pull_settled (reached : Reached r) (scope : σ) :
    ((r.settings.map Setting.name).Pairwise (· < ·) ∧
      ∀ s, s ∈ r.settings ↔ r.get? s.name = some s) ∧
    (((r.failures scope).map fun (s, _) => s.name).Pairwise (· < ·) ∧
      ∀ s e, (s, e) ∈ r.failures scope ↔
        r.get? s.name = some s ∧ Setting.pull scope s = .error e s) ∧
    (∀ s t e, Setting.pull scope s = .error e t → t = s) ∧
    (∀ name, (r.pulledAll scope).get? name =
      (r.get? name).map (leaves (Setting.pull scope))) ∧
    (∀ {η : Type} (handler : Handler η) (notes : η), PullEnds scope handler r notes) ∧
    (∀ errors, pull scope Handler.record (r, errors) =
      .ok () (r.pulledAll scope, errors ++ (r.failures scope).map Prod.snd)) ∧
    (∀ {η : Type} (notes : η),
      pull scope Handler.skip (r, notes) = .ok () (r.pulledAll scope, notes)) ∧
    ∀ {η : Type} (notes : η),
      (r.failures scope = [] →
        pull scope Handler.abort (r, notes) = .ok () (r.pulledAll scope, notes)) ∧
      ∀ s e later, r.failures scope = (s, e) :: later →
        ∃ r', pull scope Handler.abort (r, notes) = .error e (r', notes) ∧
          (∀ name, name < s.name → r'.get? name = (r.pulledAll scope).get? name) ∧
          ∀ name, s.name ≤ name → r'.get? name = r.get? name := by
  refine ⟨⟨ascending_settings reached, fun _ => mem_settings_iff reached⟩,
    ⟨ascending_failures reached scope, fun _ _ => mem_failures_iff reached⟩, ?_,
    get?_pulledAll reached, pullEnds reached scope, pull_record reached scope,
    pull_skip reached scope, pull_abort reached scope⟩
  intro s t e failed
  exact (Setting.pull_eq_error_iff.mp failed).2

/-- A text, a number and a flag, registered in another order than that of their names. -/
def sample : Settings :=
  Op.apply (.add "host" (.exact .string) (.string "localhost") (.union .read .required) "")
    (Op.apply (.addInferred "verbose" (.bool false) .read "")
      (Op.apply (.add "retries" (.coerced .integer) (.int 3) .read "") .empty))

theorem sample_settled :
    let vars := (Variables.empty.insert "retries" (.string "many")).insert "verbose" (.bool true)
    Reached sample ∧
      (∀ errors, pull vars Handler.record (sample, errors) = .ok () (sample.pulledAll vars,
        errors ++ [.required "host", .type (.wrongType "retries" "string" "integer")])) ∧
      ((sample.pulledAll vars).get? "verbose").map Setting.value = some (.bool true) ∧
      ∃ r, pull vars Handler.abort (sample, ()) = .error (.required "host") (r, ()) ∧
        (r.get? "verbose").map Setting.value = some (.bool false) := by
  intro vars
  have reached : Reached sample := .apply _ (.apply _ (.apply _ .empty))
  have failed : (sample.failures vars).map (fun (s, e) => (s.name, e)) =
      [("host", .required "host"),
        ("retries", .type (.wrongType "retries" "string" "integer"))] := rfl
  have errors : (sample.failures vars).map Prod.snd =
      [.required "host", .type (.wrongType "retries" "string" "integer")] := rfl
  obtain ⟨_, _, _, pulled, _, recorded, _, aborted⟩ := pull_settled reached vars
  refine ⟨reached, errors ▸ recorded, ?_, ?_⟩
  · rw [pulled]
    rfl
  · obtain ⟨⟨s, e⟩, later, split, first, _⟩ := List.map_eq_cons_iff.mp failed
    obtain ⟨host, rfl⟩ := Prod.mk.inj first
    obtain ⟨r, ended, _, kept⟩ := (aborted ()).2 s _ later split
    refine ⟨r, ended, ?_⟩
    have behind : s.name ≤ "verbose" := host ▸ (by decide : "host" ≤ "verbose")
    rw [kept "verbose" behind]
    rfl

end Settings

end ScriptBridge
