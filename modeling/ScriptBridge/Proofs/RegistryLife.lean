import ScriptBridge.Proofs.NameOrder
import ScriptBridge.Proofs.SettingLife

/-!
# What a registry keeps for life

A registry starts empty. Settings are registered in it, changed in place by their own operations, and
pulled in batches, in any order and often in vain (`Settings.Reached`). Every setting then stands
under its own name and is as sound as it would be outside, so the order in which the batches visit
the settings is the order of the registered names.

Results:
1. `sound_apply`, `sound_of_reached`: an operation keeps every setting sound, and so does any number
   of them.
2. `ascending_settings`, `mem_settings_iff`: the settings are listed in strictly ascending order of
   names, and all of them are.
3. `mem_before_of_split`: in front of a setting stand exactly the settings of smaller names.
-/

namespace ScriptBridge

namespace Settings

/-! ## 1. Operations -/

/-- What may be done to a registry. A registered setting is only changed by its own operations and by
batches. -/
inductive Op : Type 1
  | add (name : String) (descriptor : Descriptor) (default : Value) (access : Access)
      (description : String)
  | addInferred (name : String) (default : Value) (access : Access) (description : String)
  | amend (name : String) (op : Setting.Op)
  | pull {σ : Type} [Scope σ] {η : Type} (scope : σ) (handler : Handler η) (notes : η)

/-- The registry that an operation leaves, whether it succeeds or fails. -/
def Op.apply : Op → Settings → Settings
  | add name descriptor default access description, r =>
    leaves (Settings.add name descriptor default access description) r
  | addInferred name default access description, r =>
    leaves (Settings.addInferred name default access description) r
  | amend name op, r =>
    match r.get? name with
    | some s => r.put name (leaves op.apply s)
    | none => r
  | pull scope handler notes, r => (leaves (Settings.pull scope handler) (r, notes)).1

/-- The registries that are reached from the empty one by operations. -/
inductive Reached : Settings → Prop
  | empty : Reached .empty
  | apply {r : Settings} (op : Op) : Reached r → Reached (op.apply r)

/-- Every setting is sound under the name that it is registered under. -/
def Sound (r : Settings) : Prop :=
  ∀ name s, r.get? name = some s → ∃ description d, Setting.Sound name description d s

theorem get?_put (r : Settings) (name other : String) (s : Setting) :
    (r.put name s).get? other = if name = other then some s else r.get? other :=
  NameTable.get?_insert _ _ _ _

theorem sound_put {r : Settings} {name description : String} {d : Descriptor} {s : Setting}
    (sound : r.Sound) (own : Setting.Sound name description d s) : (r.put name s).Sound := by
  intro other t found
  rw [get?_put] at found
  split at found
  · next same =>
    cases found
    exact ⟨description, d, same ▸ own⟩
  · exact sound other t found

theorem leaves_register (name : String) (made : Except SettingError Setting) (r : Settings) :
    leaves (register name made) r = r ∨
      ∃ s, made = .ok s ∧ leaves (register name made) r = r.put name s := by
  unfold leaves register
  cases r.contains name with
  | true => exact .inl rfl
  | false =>
    cases made with
    | ok s => exact .inr ⟨s, rfl, rfl⟩
    | error e => exact .inl rfl

theorem sound_register {r : Settings} {name description : String} {d : Descriptor}
    {made : Except SettingError Setting} (sound : r.Sound)
    (own : ∀ s, made = .ok s → Setting.Sound name description d s) :
    (leaves (register name made) r).Sound := by
  rcases leaves_register name made r with same | ⟨s, done, stored⟩
  · rw [same]
    exact sound
  · rw [stored]
    exact sound_put sound (own s done)

end Settings

/-! ### Batches of pulls -/

namespace Setting

variable {σ : Type} [Scope σ]

/-- The setting that a pull leaves, whether it succeeds or fails. -/
def pulled (scope : σ) (s : Setting) : Setting := leaves (Setting.pull scope) s

/-- The error of a pull that fails. -/
def failure? (scope : σ) (s : Setting) : Option SettingError :=
  match Setting.pull scope s with
  | .ok _ _ => none
  | .error e _ => some e

/-- A pull that fails leaves the setting as it is. -/
theorem pull_eq_error_iff {scope : σ} {s t : Setting} {e : SettingError} :
    Setting.pull scope s = .error e t ↔ s.failure? scope = some e ∧ t = s := by
  constructor
  · intro failed
    refine ⟨?_, @unchanged_of_apply_error (.pull scope) s t e failed⟩
    simp [failure?, failed]
  · rintro ⟨failed, rfl⟩
    unfold failure? at failed
    split at failed
    · cases failed
    · next e' t' outcome =>
      cases failed
      rw [outcome, @unchanged_of_apply_error (.pull scope) t t' e outcome]

theorem pulled_of_failure {scope : σ} {s : Setting} {e : SettingError}
    (failed : s.failure? scope = some e) : s.pulled scope = s :=
  leaves_of_error (pull_eq_error_iff.mpr ⟨failed, rfl⟩)

theorem pull_of_no_failure {scope : σ} {s : Setting} (none : s.failure? scope = none) :
    Setting.pull scope s = .ok () (s.pulled scope) := by
  unfold failure? at none
  split at none
  · next outcome => rw [outcome, pulled, leaves_of_ok outcome]
  · cases none

end Setting

namespace Settings

variable {σ : Type} [Scope σ] {η : Type}

variable {scope : σ} {handler : Handler η} {name : String} {s : Setting}
  {rest : List (String × Setting)} {r : Settings} {notes notes' : η} {e e' : SettingError}

/-- A batch goes on behind a setting that was pulled. -/
theorem pullEach_of_pulled (pulled : s.failure? scope = none) :
    pullEach scope handler ((name, s) :: rest) (r, notes) =
      pullEach scope handler rest (r.put name (s.pulled scope), notes) := by
  simp [pullEach, Setting.pull_of_no_failure pulled]

/-- It goes on behind a setting that failed if the handler lets it. -/
theorem pullEach_of_excused (failed : s.failure? scope = some e)
    (excused : handler s e notes = .ok () notes') :
    pullEach scope handler ((name, s) :: rest) (r, notes) =
      pullEach scope handler rest (r.put name (s.pulled scope), notes') := by
  have kept := Setting.pull_eq_error_iff.mpr ⟨failed, rfl⟩
  simp [pullEach, kept, excused, Setting.pulled_of_failure failed]

/-- Otherwise it ends there with what the handler answers. -/
theorem pullEach_of_ended (failed : s.failure? scope = some e)
    (ended : handler s e notes = .error e' notes') :
    pullEach scope handler ((name, s) :: rest) (r, notes) =
      .error e' (r.put name (s.pulled scope), notes') := by
  have kept := Setting.pull_eq_error_iff.mpr ⟨failed, rfl⟩
  simp [pullEach, kept, ended, Setting.pulled_of_failure failed]

theorem sound_pullEach {items : List (String × Setting)} (sound : r.Sound)
    (own : ∀ name s, (name, s) ∈ items → ∃ description d, Setting.Sound name description d s) :
    (leaves (pullEach scope handler items) (r, notes)).1.Sound := by
  induction items generalizing r notes with
  | nil => exact sound
  | cons item rest ih =>
    obtain ⟨name, s⟩ := item
    have behind (name s) (member : (name, s) ∈ rest) := own name s (List.mem_cons_of_mem _ member)
    obtain ⟨description, d, first⟩ := own name s List.mem_cons_self
    have stored : (r.put name (s.pulled scope)).Sound :=
      sound_put sound (Setting.sound_after first (.pull scope))
    unfold leaves
    cases outcome : s.failure? scope with
    | none =>
      rw [pullEach_of_pulled outcome]
      exact ih stored behind
    | some e =>
      cases answer : handler s e notes with
      | ok u notes' =>
        rw [pullEach_of_excused outcome answer]
        exact ih stored behind
      | error e' notes' =>
        rw [pullEach_of_ended outcome answer]
        exact stored

theorem sound_apply {r : Settings} (sound : r.Sound) (op : Op) : (op.apply r).Sound := by
  cases op with
  | add name d default access description =>
    exact sound_register sound fun _ => Setting.sound_of_make
  | addInferred name default access description =>
    exact sound_register sound fun _ => Setting.sound_of_infer
  | amend name op =>
    cases found : r.get? name with
    | none => simpa [Op.apply, found] using sound
    | some s =>
      obtain ⟨description, d, own⟩ := sound name s found
      simpa [Op.apply, found] using sound_put sound (Setting.sound_after own op)
  | pull scope handler notes =>
    refine sound_pullEach sound fun _ _ member => sound _ _ ?_
    exact NameTable.get?_eq_some_iff.mpr (mem_sortBy.mp member)

theorem sound_of_reached {r : Settings} (reached : Reached r) : r.Sound := by
  induction reached with
  | empty =>
    intro name s found
    cases found
  | apply op _ ih => exact sound_apply ih op

/-! ## 2. The order of the settings -/

/-- A registered setting has the name that it is registered under. -/
theorem name_of_reached (reached : Reached r) {name : String} {s : Setting}
    (found : r.get? name = some s) : s.name = name := by
  obtain ⟨_, _, own⟩ := sound_of_reached reached name s found
  exact own.name_kept

theorem name_of_mem_byName (reached : Reached r) {name : String} {s : Setting}
    (member : (name, s) ∈ r.byName) : s.name = name :=
  name_of_reached reached (NameTable.get?_eq_some_iff.mpr (mem_sortBy.mp member))

theorem mem_settings_iff (reached : Reached r) {s : Setting} :
    s ∈ r.settings ↔ r.get? s.name = some s := by
  constructor
  · intro member
    obtain ⟨⟨name, t⟩, listed, rfl⟩ := List.mem_map.mp member
    obtain rfl := name_of_mem_byName reached listed
    exact NameTable.get?_eq_some_iff.mpr (mem_sortBy.mp listed)
  · intro found
    have listed : (s.name, s) ∈ r.byName :=
      mem_sortBy.mpr (NameTable.get?_eq_some_iff.mp found)
    exact List.mem_map.mpr ⟨_, listed, rfl⟩

theorem ascending_settings (reached : Reached r) :
    (r.settings.map Setting.name).Pairwise (· < ·) := by
  have names : r.table.entries.map (fun item => item.2.name) = r.table.entries.map Prod.fst := by
    refine List.map_congr_left ?_
    rintro ⟨name, s⟩ member
    exact name_of_reached reached (NameTable.get?_eq_some_iff.mpr member)
  have distinct : (r.table.entries.map fun item => item.2.name).Nodup := names ▸ r.table.distinct
  rw [settings, List.map_map]
  exact strictlyAscending_sortBy distinct

theorem nodup_names (reached : Reached r) : (r.settings.map Setting.name).Nodup :=
  nodup_of_strictlyAscending (ascending_settings reached)

/-- In front of a setting stand exactly the settings of smaller names. -/
theorem mem_before_of_split (reached : Reached r) {before later : List Setting} {t : Setting}
    (split : r.settings = before ++ s :: later) (found : r.get? name = some t) :
    t ∈ before ↔ name < s.name := by
  obtain rfl := name_of_reached reached found
  have ascending := ascending_settings reached
  have listed := (mem_settings_iff reached).mpr found
  rw [split] at ascending listed
  rw [mem_before_iff ascending]
  exact and_iff_right listed

/-- Every setting is visited under its own name. -/
theorem byName_eq (reached : Reached r) : r.byName = r.settings.map fun s => (s.name, s) := by
  rw [settings, List.map_map]
  refine (List.map_id r.byName).symm.trans (List.map_congr_left ?_)
  rintro ⟨name, s⟩ member
  rw [← name_of_mem_byName reached member]
  rfl

end Settings

end ScriptBridge
