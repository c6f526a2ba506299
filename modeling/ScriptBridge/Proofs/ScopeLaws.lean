import ScriptBridge.Engine.Basic
import ScriptBridge.Proofs.SettingLife
import ScriptBridge.Proofs.VariableScope

/-!
# The laws of scopes

A name can be absent from a scope in three ways: it is no variable, it is a variable that holds nil,
or it is reserved, and then there may still be a variable under it. A setting that is pulled asks
first whether its name has a value and gets the value afterwards, so the two answers have to agree
in every state. That is one of the laws which both kinds of scopes obey; the others say what a write
changes. Where they hold, a pull never fails because of the scope.

Results:
1. `Variables.has_iff`, `Variables.get_insert`, `Variables.has_insert`: variables on their own.
2. `VariableScope.lawful`: every scope that keeps variables obeys the laws.
3. `pull_cases_of_lawful`, `emptied_iff`: what a pull from a scope that obeys them can do.
4. `scopes_lawful`: all of it for engines and for variables alone.
-/

namespace ScriptBridge

/-! ## 1. Variables -/

namespace Variables

theorem has_iff (vars : Variables) (name : String) :
    vars.has name = true ↔ ∃ v, vars.get name = .ok v ∧ v ≠ .nil := by
  unfold has get
  cases vars.table.get? name <;> simp [← Value.isNil_iff]

theorem get_insert (vars : Variables) (name other : String) (v : Value) :
    (vars.insert name v).get other = if name = other then .ok v else vars.get other := by
  unfold get insert
  rw [NameTable.get?_insert]
  by_cases same : name = other <;> simp [same]

theorem has_insert (vars : Variables) (name other : String) (v : Value) :
    (vars.insert name v).has other = if name = other then !v.isNil else vars.has other := by
  unfold has insert
  rw [NameTable.get?_insert]
  by_cases same : name = other <;> simp [same]

end Variables

/-! ## 2. The laws -/

/-- The laws of a kind of scope, in which some names are reserved and some are defined, as nil
included: what has a value is what can be got and is not nil; a write is read back and does not
concern other names; and a declaration is a write that is refused for names already defined. -/
structure Scope.Lawful (σ : Type) [Scope σ] (reserved defined : σ → String → Bool) : Prop where
  has_iff : ∀ (s : σ) name, Scope.has s name = true ↔ ∃ v, Scope.get s name = .ok v ∧ v ≠ .nil
  set_iff : ∀ (s : σ) name v, (∃ t, Scope.set name v s = .ok () t) ↔ reserved s name = false
  get_set : ∀ (s t : σ) name v, Scope.set name v s = .ok () t → Scope.get t name = .ok v
  has_set : ∀ (s t : σ) name v, Scope.set name v s = .ok () t →
    (Scope.has t name = true ↔ v ≠ .nil)
  set_other : ∀ (s t : σ) name v, Scope.set name v s = .ok () t → ∀ other, other ≠ name →
    Scope.has t other = Scope.has s other ∧ Scope.get t other = Scope.get s other
  declare_iff : ∀ (s : σ) name v, (∃ t, Scope.declare name v s = .ok () t) ↔
    reserved s name = false ∧ defined s name = false
  set_of_declare : ∀ (s t : σ) name v, Scope.declare name v s = .ok () t →
    Scope.set name v s = .ok () t

namespace VariableScope

variable {σ : Type} [Scope σ] [VariableScope σ]

theorem set_eq_ok_iff {name : String} {v : Value} {s t : σ} :
    Scope.set name v s = .ok () t ↔
      isReserved s name = false ∧ t = withVars s ((vars s).insert name v) := by
  rw [set_eq]
  cases isReserved s name <;> simp [eq_comm]

theorem declare_eq_ok_iff {name : String} {v : Value} {s t : σ} :
    Scope.declare name v s = .ok () t ↔
      (isReserved s name = false ∧ (vars s).defines name = false) ∧
        t = withVars s ((vars s).insert name v) := by
  rw [declare_eq]
  cases isReserved s name <;> cases (vars s).defines name <;> simp [eq_comm]

/-- The two questions agree also where a name is reserved: it has no value and cannot be got. -/
theorem has_iff_get (s : σ) (name : String) :
    Scope.has s name = true ↔ ∃ v, Scope.get s name = .ok v ∧ v ≠ .nil := by
  rw [has_eq, get_eq]
  cases isReserved s name with
  | true => simp
  | false => simpa using (vars s).has_iff name

theorem lawful :
    Scope.Lawful σ isReserved fun s => (vars s).defines where
  has_iff := has_iff_get
  set_iff s name v := by simp [set_eq_ok_iff]
  get_set s t name v done := by
    obtain ⟨free, rfl⟩ := set_eq_ok_iff.mp done
    simp [get_eq, free, Variables.get_insert]
  has_set s t name v done := by
    obtain ⟨free, rfl⟩ := set_eq_ok_iff.mp done
    simp [has_eq, free, Variables.has_insert, ← Value.isNil_iff]
  set_other s t name v done other different := by
    obtain ⟨_, rfl⟩ := set_eq_ok_iff.mp done
    simp [has_eq, get_eq, Variables.has_insert, Variables.get_insert, Ne.symm different]
  declare_iff s name v := by simp [declare_eq_ok_iff]
  set_of_declare s t name v done := by
    obtain ⟨⟨free, _⟩, stored⟩ := declare_eq_ok_iff.mp done
    exact set_eq_ok_iff.mpr ⟨free, stored⟩

end VariableScope

/-! ## 3. Pulling from a scope that obeys them -/

/-- The descriptors that come without a rule of the host. -/
inductive Descriptor.Standard : Descriptor → Prop
  | exact (type : TypeId) : Standard (.exact type)
  | offering (interface : Interface) : Standard (.offering interface)
  | integer : Standard (.coerced .integer)
  | float : Standard (.coerced .float)

/-- Such a descriptor does not answer nil for a value. -/
theorem Descriptor.Standard.check_ne_nil {d : Descriptor} (standard : d.Standard) {field : String}
    {v : Value} (present : v ≠ .nil) : d.check field v ≠ .ok .nil := by
  intro checked
  have conforms := Descriptor.conforms_of_check checked
  cases standard with
  | exact type =>
    -- the exact type of nil is not passed at all
    have nil_type : .nil = type := conforms
    simp [check, ← nil_type] at checked
  | offering interface =>
    simp only [check] at checked
    split at checked
    · exact present (Except.ok.inj checked)
    · cases checked
  | integer =>
    obtain ⟨source, normal⟩ := conforms
    obtain ⟨n, other⟩ := Rule.int_of_integer normal
    cases other
  | float =>
    obtain ⟨source, normal⟩ := conforms
    obtain ⟨x, other⟩ := Rule.float64_of_float normal
    cases other

namespace Setting

/-- What an assignment of a value stores is what the descriptor answers for it. -/
theorem value_of_assign_iff {v w : Value} {s : Setting} (present : v ≠ .nil) :
    (leaves (assign v) s).value = w ↔
      s.descriptor.check s.name v = .ok w ∨
        (∃ e, s.descriptor.check s.name v = .error e) ∧ s.value = w := by
  have some_value : ¬ v.isNil = true := mt (Value.isNil_iff v).mp present
  unfold leaves assign
  rw [if_neg some_value]
  cases s.descriptor.check s.name v <;> simp

section Pulls

variable {σ : Type} [Scope σ] {reserved defined : σ → String → Bool}

/-- A pull leaves the setting as it is, unless the setting reads and the scope has a value, which is
assigned then. -/
theorem pull_cases_of_lawful (lawful : Scope.Lawful σ reserved defined) (scope : σ)
    (s : Setting) :
    (s.access.canRead = true ∧ ∃ v, Scope.get scope s.name = .ok v ∧ v ≠ .nil ∧
      pull scope s = assign v s) ∨
    ((s.access.canRead = false ∨ Scope.has scope s.name = false) ∧
      (pull scope s = .ok () s ∨ pull scope s = .error (.required s.name) s)) := by
  cases reads : s.access.canRead with
  | false => exact .inr ⟨.inl rfl, .inl (pull_of_unread scope reads)⟩
  | true =>
    cases has : Scope.has scope s.name with
    | true =>
      obtain ⟨v, got, present⟩ := (lawful.has_iff scope s.name).mp has
      exact .inl ⟨rfl, v, got, present, pull_of_get reads has got⟩
    | false =>
      refine .inr ⟨.inr rfl, ?_⟩
      cases required : s.access.isRequired with
      | true => exact .inr (pull_of_missing reads has required)
      | false => exact .inl (pull_of_absent has required)

theorem pull_ne_scope_error (lawful : Scope.Lawful σ reserved defined) (scope : σ)
    (s : Setting) (e : ScopeError) (t : Setting) : pull scope s ≠ .error (.scope e) t := by
  intro failed
  rcases pull_cases_of_lawful lawful scope s with ⟨_, v, _, _, assigned⟩ | ⟨_, same | missing⟩
  · rw [assigned] at failed
    obtain ⟨_, _, _, _, other⟩ := assign_eq_error_iff.mp failed
    cases other
  · cases same.symm.trans failed
  · cases missing.symm.trans failed

/-- A setting is emptied by a pull only if its descriptor answers nil for the value in the scope. -/
theorem emptied_iff (lawful : Scope.Lawful σ reserved defined) (scope : σ) {s : Setting}
    (full : s.value ≠ .nil) :
    (leaves (pull scope) s).value = .nil ↔
      s.access.canRead = true ∧ ∃ v, Scope.get scope s.name = .ok v ∧ v ≠ .nil ∧
        s.descriptor.check s.name v = .ok .nil := by
  rcases pull_cases_of_lawful lawful scope s with
    ⟨reads, v, got, present, assigned⟩ | ⟨unread, kept⟩
  · have same : leaves (pull scope) s = leaves (assign v) s := by
      rw [leaves, leaves, assigned]
    rw [same, value_of_assign_iff present, got]
    simp [reads, present, full]
  · have same : leaves (pull scope) s = s := by
      rcases kept with done | failed
      · exact leaves_of_ok done
      · exact leaves_of_error failed
    rw [same]
    refine iff_of_false full ?_
    rintro ⟨reads, v, got, present, _⟩
    rcases unread with silent | absent
    · rw [reads] at silent
      cases silent
    · rw [(lawful.has_iff scope s.name).mpr ⟨v, got, present⟩] at absent
      cases absent

/-- A pull from the scope does not fail because of the scope. It empties a setting only by a rule of
the host that answers nil for the value in the scope. -/
structure PullsSafely (scope : σ) (s : Setting) : Prop where
  no_scope_error : ∀ e t, pull scope s ≠ .error (.scope e) t
  emptied_iff : s.value ≠ .nil → ((leaves (pull scope) s).value = .nil ↔
    s.access.canRead = true ∧ ∃ v, Scope.get scope s.name = .ok v ∧ v ≠ .nil ∧
      s.descriptor.check s.name v = .ok .nil)
  stays_full : s.value ≠ .nil → s.descriptor.Standard → (leaves (pull scope) s).value ≠ .nil

theorem pullsSafely_of_lawful (lawful : Scope.Lawful σ reserved defined) (scope : σ)
    (s : Setting) : PullsSafely scope s := by
  refine ⟨pull_ne_scope_error lawful scope s, emptied_iff lawful scope, ?_⟩
  intro full standard emptied
  obtain ⟨_, v, _, present, cleared⟩ := (emptied_iff lawful scope full).mp emptied
  exact standard.check_ne_nil present cleared

end Pulls

end Setting

/-! ## 4. Engines and variables -/

/-- Variables alone and engines obey the laws of scopes in whatever state they are; nothing is
reserved in the first, and a name may be reserved and defined in the second. Hence no setting ever
fails to be pulled from one of them because of the scope, and a setting that has a value still has
one afterwards if its descriptor is an exact type, an interface or one of the built-in rules. -/
theorem scopes_lawful :
    (Scope.Lawful Variables (fun _ _ => false) Variables.defines ∧
      ∀ s (vars : Variables), Setting.PullsSafely vars s) ∧
    ∀ ε : Type, Scope.Lawful (Engine ε) Engine.isReserved (fun e => e.vars.defines) ∧
      ∀ s (e : Engine ε), Setting.PullsSafely e s := by
  have alone : Scope.Lawful Variables (fun _ _ => false) Variables.defines := VariableScope.lawful
  have inside (ε : Type) : Scope.Lawful (Engine ε) Engine.isReserved fun e => e.vars.defines :=
    VariableScope.lawful
  refine ⟨⟨alone, fun s vars => ?_⟩, fun ε => ⟨inside ε, fun s e => ?_⟩⟩
  · exact Setting.pullsSafely_of_lawful alone vars s
  · exact Setting.pullsSafely_of_lawful (inside ε) e s

/-- Leaves a prompt behind and has its name reserved. -/
def prompter (e : Engine Unit) : Engine Unit × Catalogue :=
  (leaves (Engine.set "prompt" (.string "> ")) e, ⟨.ofList [("prompt", .nil)]⟩)

/-- The prompt is still a variable and cannot be written. A limit is cleared, and then it can be got
and is not there, cannot be declared, and leaves a setting of this name as it is. -/
theorem prompter_lawful : ∃ e : Engine Unit, Engine.load prompter = .ok e ∧
    e.vars.defines "prompt" = true ∧ (∀ v t, Engine.set "prompt" v e ≠ .ok () t) ∧
    ∃ t : Engine Unit, Engine.set "limit" .nil e = .ok () t ∧ t.get "limit" = .ok .nil ∧
      t.has "limit" ≠ true ∧ (∀ v u, Engine.declare "limit" v t ≠ .ok () u) ∧
      (leaves (Setting.pull t) ⟨"limit", "", .read, .coerced .integer, .int 3⟩).value ≠ .nil := by
  have loaded : ∃ e, Engine.load prompter = .ok e ∧ e.vars.defines "prompt" = true ∧
      e.isReserved "prompt" = true ∧ e.isReserved "limit" = false := by
    exact ⟨_, rfl, rfl, rfl, rfl⟩
  obtain ⟨e, loaded, defined, reserved, free⟩ := loaded
  obtain ⟨laws, pulls⟩ := scopes_lawful.2 Unit
  obtain ⟨t, cleared⟩ := (laws.set_iff e "limit" .nil).mpr free
  have bound : t.vars.defines "limit" = true := by
    obtain ⟨_, rfl⟩ := VariableScope.set_eq_ok_iff.mp cleared
    exact (NameTable.contains_iff _ _).mpr ⟨.nil, NameTable.get?_insert_self _ _ _⟩
  refine ⟨e, loaded, defined, fun v t done => ?_, t, cleared, laws.get_set e t "limit" .nil cleared,
    ?_, fun v u done => ?_, ?_⟩
  · rw [(laws.set_iff e "prompt" v).mp ⟨t, done⟩] at reserved
    cases reserved
  · exact fun has => (laws.has_set e t "limit" .nil cleared).mp has rfl
  · rw [((laws.declare_iff t "limit" v).mp ⟨u, done⟩).2] at bound
    cases bound
  · exact (pulls _ t).stays_full (by simp) .integer

end ScriptBridge
