import ScriptBridge.Proofs.Outcome
import ScriptBridge.Scope.Variables
import ScriptBridge.Setting.Registry

/-!
# What a setting keeps for life

A setting is made with a type descriptor or from a default, on its own or in a registry. From then
on it is assigned, given another access and pulled from scopes, in any order and often in vain. This
module says what stays true of it all the time (`Setting.Sound`): its name, its description and its
descriptor are those it was made with, and its value is nil or conforms to the descriptor.

Results:
1. `apply_cases`: an operation succeeds with nothing but another access and a value that was there
   before, is nil or conforms to the descriptor, or it fails and changes nothing.
2. `sound_of_created`, `sound_after`, `sound_runs`: every new setting is sound, one operation keeps
   it sound, and so does any number of them.
3. `created_stays_sound`: the whole life of a setting, with what the built-in rules leave in it.
-/

namespace ScriptBridge

namespace Setting

/-! ## Operations -/

/-- What may be done to a setting after it is made. Each pull may be from a scope of its own kind,
with any answers. -/
inductive Op : Type 1
  | assign (v : Value)
  | regrant (access : Access)
  | pull {σ : Type} [Scope σ] (scope : σ)

/-- Does an operation. -/
def Op.apply : Op → EStateM SettingError Setting Unit
  | assign v => Setting.assign v
  | regrant access => fun s => .ok () (s.withAccess access)
  | pull scope => Setting.pull scope

/-- The setting after some operations, each of which may have failed. -/
def runs : List Op → Setting → Setting
  | [], s => s
  | op :: ops, s => runs ops (leaves op.apply s)

/-- `Created name description d s`: the setting `s` was just made with this name, this description
and the descriptor `d`. A setting of a registry is the one that is found there under its name. -/
inductive Created (name description : String) : Descriptor → Setting → Prop
  | make {d : Descriptor} {default : Value} {access : Access} {s : Setting} :
      Setting.make name d default access description = .ok s → Created name description d s
  | infer {default : Value} {access : Access} {s : Setting} :
      Setting.infer name default access description = .ok s →
      Created name description (.exact default.typeId) s
  | add {d : Descriptor} {default : Value} {access : Access} {r r' : Settings} {a s : Setting} :
      Settings.add name d default access description r = .ok a r' → r'.get? name = some s →
      Created name description d s
  | addInferred {default : Value} {access : Access} {r r' : Settings} {a s : Setting} :
      Settings.addInferred name default access description r = .ok a r' → r'.get? name = some s →
      Created name description (.exact default.typeId) s

/-- What holds at any time of a setting that was made with this name, description and descriptor. -/
structure Sound (name description : String) (d : Descriptor) (s : Setting) : Prop where
  name_kept : s.name = name
  description_kept : s.description = description
  descriptor_kept : s.descriptor = d
  value_conforms : s.value = .nil ∨ d.Conforms s.value

/-! ## 1. What one operation can do -/

theorem assign_cases (v : Value) (s : Setting) :
    (∃ w, Setting.assign v s = .ok () { s with value := w } ∧
      (w = .nil ∨ s.descriptor.Conforms w)) ∨
    ∃ e, Setting.assign v s = .error e s := by
  unfold Setting.assign
  by_cases absent : v.isNil = true
  · exact .inl ⟨.nil, by rw [if_pos absent], .inl rfl⟩
  · rw [if_neg absent]
    cases checked : s.descriptor.check s.name v with
    | ok w => exact .inl ⟨w, rfl, .inr (Descriptor.conforms_of_check checked)⟩
    | error e => exact .inr ⟨_, rfl⟩

/-- An assignment fails for a value that does not pass the descriptor, and with that error only. -/
theorem assign_eq_error_iff {v : Value} {s t : Setting} {e : SettingError} :
    Setting.assign v s = .error e t ↔
      v ≠ .nil ∧ t = s ∧ ∃ error, s.descriptor.check s.name v = .error error ∧ e = .type error := by
  unfold Setting.assign
  cases absent : v.isNil with
  | true => simp [(Value.isNil_iff v).mp absent]
  | false =>
    have present : v ≠ .nil := fun nil => by simp [nil, Value.isNil] at absent
    cases checked : s.descriptor.check s.name v with
    | ok w => simp
    | error error => simp [present, eq_comm, and_comm]

section Pulls

variable {σ : Type} [Scope σ] {s : Setting}

theorem pull_of_unread (scope : σ) (unread : s.access.canRead = false) :
    Setting.pull scope s = .ok () s := by
  simp [Setting.pull, unread]

theorem pull_of_absent {scope : σ} (absent : Scope.has scope s.name = false)
    (optional : s.access.isRequired = false) : Setting.pull scope s = .ok () s := by
  simp [Setting.pull, absent, optional]

theorem pull_of_missing {scope : σ} (reads : s.access.canRead = true)
    (absent : Scope.has scope s.name = false) (required : s.access.isRequired = true) :
    Setting.pull scope s = .error (.required s.name) s := by
  simp [Setting.pull, reads, absent, required]

theorem pull_of_get {scope : σ} {v : Value} (reads : s.access.canRead = true)
    (present : Scope.has scope s.name = true) (got : Scope.get scope s.name = .ok v) :
    Setting.pull scope s = assign v s := by
  simp [Setting.pull, reads, present, got]

end Pulls

/-- A pull does nothing, assigns a value that the scope has, or fails before it assigns any. -/
theorem pull_cases {σ : Type} [Scope σ] (scope : σ) (s : Setting) :
    Setting.pull scope s = .ok () s ∨ (∃ v, Setting.pull scope s = Setting.assign v s) ∨
    ∃ e, Setting.pull scope s = .error e s := by
  unfold Setting.pull
  split
  · exact .inl rfl
  · split
    · cases Scope.get scope s.name with
      | ok v => exact .inr (.inl ⟨v, rfl⟩)
      | error e => exact .inr (.inr ⟨_, rfl⟩)
    · split
      · exact .inr (.inr ⟨_, rfl⟩)
      · exact .inl rfl

theorem apply_cases (op : Op) (s : Setting) :
    (∃ access v, op.apply s = .ok () { s with access := access, value := v } ∧
      (v = s.value ∨ v = .nil ∨ s.descriptor.Conforms v)) ∨
    ∃ e, op.apply s = .error e s := by
  cases op with
  | assign v =>
    rcases assign_cases v s with ⟨w, done, conforms⟩ | failed
    · exact .inl ⟨s.access, w, done, .inr conforms⟩
    · exact .inr failed
  | regrant access => exact .inl ⟨access, s.value, rfl, .inl rfl⟩
  | pull scope =>
    rcases pull_cases scope s with same | ⟨v, assigned⟩ | failed
    · exact .inl ⟨s.access, s.value, same, .inl rfl⟩
    · rcases assign_cases v s with ⟨w, done, conforms⟩ | ⟨e, failed⟩
      · exact .inl ⟨s.access, w, assigned.trans done, .inr conforms⟩
      · exact .inr ⟨e, assigned.trans failed⟩
    · exact .inr failed

/-- An operation that fails leaves every field as it was. -/
theorem unchanged_of_apply_error {op : Op} {s t : Setting} {e : SettingError}
    (failed : op.apply s = .error e t) : t = s := by
  rcases apply_cases op s with ⟨_, _, done, _⟩ | ⟨e', same⟩
  · rw [done] at failed
    cases failed
  · rw [same] at failed
    cases failed
    rfl

/-! ## 2. New settings are sound, and operations keep them so -/

theorem sound_of_make {name description : String} {d : Descriptor} {default : Value}
    {access : Access} {s : Setting}
    (made : Setting.make name d default access description = .ok s) :
    Sound name description d s := by
  unfold Setting.make at made
  split at made
  · rcases assign_cases default ⟨name, description, access, d, .nil⟩ with
      ⟨w, done, conforms⟩ | ⟨e, failed⟩
    · rw [done] at made
      cases made
      exact ⟨rfl, rfl, rfl, conforms⟩
    · rw [failed] at made
      cases made
  · cases made

theorem sound_of_infer {name description : String} {default : Value} {access : Access} {s : Setting}
    (made : Setting.infer name default access description = .ok s) :
    Sound name description (.exact default.typeId) s := by
  unfold Setting.infer at made
  split at made
  · cases made
  · cases made
    exact ⟨rfl, rfl, rfl, .inr rfl⟩

end Setting

/-- A registration succeeds for a name that is free and a setting that could be made; the setting is
stored under the name. -/
theorem Settings.register_eq_ok_iff {name : String} {made : Except SettingError Setting}
    {r r' : Settings} {s : Setting} :
    Settings.register name made r = .ok s r' ↔
      r.contains name = false ∧ made = .ok s ∧ r' = r.put name s := by
  unfold Settings.register
  cases taken : r.contains name
  · cases made with
    | ok a =>
      simp only [Bool.false_eq_true, if_false, EStateM.Result.ok.injEq, Except.ok.injEq, true_and]
      constructor
      · rintro ⟨rfl, rfl⟩
        exact ⟨rfl, rfl⟩
      · rintro ⟨rfl, rfl⟩
        exact ⟨rfl, rfl⟩
    | error e => simp
  · simp

/-- What a registry holds under a name after a registration is the setting that was made. -/
theorem Settings.made_of_register {name : String} {made : Except SettingError Setting}
    {r r' : Settings} {a s : Setting} (added : Settings.register name made r = .ok a r')
    (held : r'.get? name = some s) : made = .ok s := by
  obtain ⟨_, rfl, rfl⟩ := Settings.register_eq_ok_iff.mp added
  have same : (r.put name a).get? name = some a := NameTable.get?_insert_self _ _ _
  rw [same] at held
  cases held
  rfl

namespace Setting

theorem sound_of_created {name description : String} {d : Descriptor} {s : Setting}
    (created : Created name description d s) : Sound name description d s := by
  cases created with
  | make made => exact sound_of_make made
  | infer made => exact sound_of_infer made
  | add added held => exact sound_of_make (Settings.made_of_register added held)
  | addInferred added held => exact sound_of_infer (Settings.made_of_register added held)

theorem sound_after {name description : String} {d : Descriptor} {s : Setting}
    (sound : Sound name description d s) (op : Op) :
    Sound name description d (leaves op.apply s) := by
  rcases apply_cases op s with ⟨access, v, done, origin⟩ | ⟨e, failed⟩
  · rw [leaves_of_ok done]
    refine ⟨sound.name_kept, sound.description_kept, sound.descriptor_kept, ?_⟩
    rcases origin with rfl | rfl | conforms
    · exact sound.value_conforms
    · exact .inl rfl
    · exact .inr (sound.descriptor_kept ▸ conforms)
  · rw [leaves_of_error failed]
    exact sound

theorem sound_runs {name description : String} {d : Descriptor} {s : Setting}
    (sound : Sound name description d s) (ops : List Op) :
    Sound name description d (runs ops s) := by
  induction ops generalizing s with
  | nil => exact sound
  | cons op ops ih => exact ih (sound_after sound op)

end Setting

/-! ## 3. The whole life of a setting -/

/-- The rule for integers answers canonical integers only. -/
theorem Rule.int_of_integer {source v : Value} (h : Rule.integer.normalize source = .ok v) :
    ∃ n, v = .int n := by
  cases source <;> simp only [Rule.integer] at h <;> cases h <;> exact ⟨_, rfl⟩

/-- The rule for floating point numbers answers double precision only. -/
theorem Rule.float64_of_float {source v : Value} (h : Rule.float.normalize source = .ok v) :
    ∃ x, v = .float64 x := by
  cases source <;> simp only [Rule.float] at h <;> cases h <;> exact ⟨_, rfl⟩

namespace Setting

/-- However a setting was made and whatever was done to it since, with or without success: it has
the name, the description and the descriptor it was made with, its value is nil or conforms to that
descriptor, and the next operation, if it fails, leaves all of it as it is. In particular a setting
under one of the built-in rules holds nil or a value of the rule's own kind. -/
theorem created_stays_sound {name description : String} {d : Descriptor} {s : Setting}
    (created : Created name description d s) (ops : List Op) :
    ((runs ops s).name = name ∧ (runs ops s).description = description ∧
      (runs ops s).descriptor = d) ∧
    ((runs ops s).value = .nil ∨ d.Conforms (runs ops s).value) ∧
    (d = .coerced .integer → (runs ops s).value = .nil ∨ ∃ n, (runs ops s).value = .int n) ∧
    (d = .coerced .float → (runs ops s).value = .nil ∨ ∃ x, (runs ops s).value = .float64 x) ∧
    ∀ (op : Op) (e : SettingError) (t : Setting),
      op.apply (runs ops s) = .error e t → t = runs ops s := by
  have sound := sound_runs (sound_of_created created) ops
  refine ⟨⟨sound.name_kept, sound.description_kept, sound.descriptor_kept⟩, sound.value_conforms,
    ?_, ?_, fun _ _ _ => unchanged_of_apply_error⟩
  · rintro rfl
    refine sound.value_conforms.imp_right ?_
    rintro ⟨source, normal⟩
    exact Rule.int_of_integer normal
  · rintro rfl
    refine sound.value_conforms.imp_right ?_
    rintro ⟨source, normal⟩
    exact Rule.float64_of_float normal

/-- A setting of integers refuses a text and then takes a value from a scope. -/
theorem retries_stays_sound :
    let s : Setting := ⟨"retries", "attempts", .read, .coerced .integer, .int 3⟩
    let ops := [.assign (.string "many"), .pull (Variables.empty.insert "retries" (.int32 9))]
    Setting.make "retries" (.coerced .integer) (.int16 3) .read "attempts" = .ok s ∧
      (runs ops s).value = .int 9 ∧
      ((runs ops s).value = .nil ∨ ∃ n, (runs ops s).value = .int n) := by
  intro s ops
  have made : Setting.make "retries" (.coerced .integer) (.int16 3) .read "attempts" = .ok s := rfl
  obtain ⟨_, _, integers, _⟩ := created_stays_sound (.make made) ops
  have taken : (runs ops s).value = .int 9 := by with_unfolding_all rfl
  exact ⟨made, taken, integers rfl⟩

end Setting

end ScriptBridge
