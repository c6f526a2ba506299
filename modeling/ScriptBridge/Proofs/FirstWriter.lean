import ScriptBridge.Proofs.PushBatch

/-!
# The first writer wins

Several registries may be supplied to the same variables, and their settings may have names in
common. A setting that may write gives way to a value and not to nil, and an empty one writes nil.
So of the settings that write under one name the first that has a value settles the binding, however
many empty ones come before it (`Settings.writers`, `Setting.settle`).

Results:
1. `get?_of_supply`: one registry, at one name.
2. `get?_of_supplyAll`: under each name a run of registries is a run of the settings that write
   there.
3. `foldl_settle_of_value`, `foldl_settle_of_first`, `foldl_settle_of_empty`: how such a run ends.
4. `supplyAll_settled`: all of it together.
-/

namespace ScriptBridge

/-! ## 1. One registry -/

/-- Whether a binding has a value other than nil. -/
def hasValue (binding : Option Value) : Bool := binding.any fun v => !v.isNil

theorem Variables.has_eq_hasValue (vars : Variables) (name : String) :
    vars.has name = hasValue (vars.table.get? name) := by
  unfold Variables.has hasValue
  cases vars.table.get? name <;> rfl

/-- What becomes of the binding of its name when a setting that may write is supplied. -/
def Setting.settle (binding : Option Value) (s : Setting) : Option Value :=
  if hasValue binding then binding else some s.value

namespace Settings

variable {r : Settings} {calls : List Settings}

/-- The setting of a name, if it may write. -/
def writer? (name : String) (r : Settings) : Option Setting :=
  (r.get? name).filter fun s => s.access.canWrite

/-- The settings that may write under a name, in the order in which their registries are supplied. -/
def writers (name : String) (calls : List Settings) : List Setting :=
  calls.filterMap (writer? name)

/-- Variables refuse nothing, and under each name they change as the setting that may write there
says. -/
theorem get?_of_supply (reached : Reached r) (vars : Variables) :
    ∃ after, r.supply vars = .ok () after ∧ ∀ name, after.table.get? name =
      (r.writer? name).toList.foldl Setting.settle (vars.table.get? name) := by
  rcases Push.batch_cases reached .supply vars with
    ⟨_, after, outcome, effect⟩ | ⟨_, _, ⟨_, _, _, reserved⟩, _⟩
  · have effect : Push.Effect .supply r vars.has (fun _ => True) vars after := effect
    refine ⟨after, outcome, fun name => ?_⟩
    cases found : r.get? name with
    | none =>
      have nobody : r.writer? name = none := by simp [writer?, found]
      rw [nobody]
      exact effect.others name (.inr found)
    | some s =>
      have pushed := effect.pushed name s trivial found
      cases write : s.access.canWrite with
      | false =>
        have nobody : r.writer? name = none := by simp [writer?, found, write]
        rw [nobody]
        exact pushed.untouched write
      | true =>
        have writer : r.writer? name = some s := by simp [writer?, found, write]
        rw [writer]
        show _ = Setting.settle (vars.table.get? name) s
        unfold Setting.settle
        rw [← Variables.has_eq_hasValue]
        cases present : vars.has name with
        | true => exact pushed.kept (by decide) write present
        | false => exact pushed.supplied (by decide) write present
  · -- no name of bare variables is reserved
    cases reserved

/-! ## 2. Several registries -/

theorem writers_cons (name : String) (r : Settings) (calls : List Settings) :
    writers name (r :: calls) = (r.writer? name).toList ++ writers name calls := by
  unfold writers
  cases writer : r.writer? name <;> simp [writer]

/-- Under each name the run comes down to the settings that may write there. -/
theorem get?_of_supplyAll (reached : ∀ r ∈ calls, Reached r) (vars : Variables) :
    ∃ after, calls.forM supply vars = .ok () after ∧ ∀ name, after.table.get? name =
      (writers name calls).foldl Setting.settle (vars.table.get? name) := by
  induction calls generalizing vars with
  | nil => exact ⟨vars, rfl, fun _ => rfl⟩
  | cons r rest ih =>
    obtain ⟨own, behind⟩ := List.forall_mem_cons.mp reached
    obtain ⟨between, first, supplied⟩ := get?_of_supply own vars
    obtain ⟨after, second, settled⟩ := ih behind between
    refine ⟨after, ?_, fun name => ?_⟩
    · exact (forM_cons_of_ok first).trans second
    · rw [settled, supplied, writers_cons, List.foldl_append]

end Settings

/-! ## 3. The settings of one name -/

namespace Setting

variable {binding : Option Value}

/-- A value is never replaced. -/
theorem foldl_settle_of_value (present : hasValue binding = true) (settings : List Setting) :
    settings.foldl settle binding = binding := by
  induction settings with
  | nil => rfl
  | cons s rest ih =>
    have stays : settle binding s = binding := by simp [settle, present]
    rw [List.foldl_cons, stays, ih]

theorem hasValue_of_isEmpty {s : Setting} (empty : s.isEmpty = true) :
    hasValue (some s.value) = false := by
  have absent : s.value.isNil = true := empty
  simp [hasValue, absent]

/-- Empty settings leave nil, or what was there if there are none. -/
theorem foldl_settle_of_empty (absent : hasValue binding = false) {settings : List Setting}
    (empty : ∀ s ∈ settings, s.isEmpty = true) :
    settings.foldl settle binding = if settings = [] then binding else some .nil := by
  induction settings generalizing binding with
  | nil => rfl
  | cons s rest ih =>
    obtain ⟨own, behind⟩ := List.forall_mem_cons.mp empty
    have settled : settle binding s = some s.value := by simp [settle, absent]
    have nothing : s.value = .nil := (Value.isNil_iff _).mp own
    rw [List.foldl_cons, settled, ih (hasValue_of_isEmpty own) behind, nothing]
    cases rest <;> simp

/-- Of several settings the first that has a value settles the binding. -/
theorem foldl_settle_of_first (absent : hasValue binding = false) {before later : List Setting}
    {s : Setting} (empty : ∀ t ∈ before, t.isEmpty = true) (full : s.isEmpty = false) :
    (before ++ s :: later).foldl settle binding = some s.value := by
  have still : hasValue (before.foldl settle binding) = false := by
    rw [foldl_settle_of_empty absent empty]
    split
    · exact absent
    · rfl
  have settled : settle (before.foldl settle binding) s = some s.value := by simp [settle, still]
  have present : hasValue (some s.value) = true := by
    have some_value : s.value.isNil = false := full
    simp [hasValue, some_value]
  rw [List.foldl_append, List.foldl_cons, settled, foldl_settle_of_value present]

end Setting

/-! ## 4. The binding of a name -/

namespace Settings

/-- Any number of registries, each in the state that it has at its turn, are supplied to the same
variables one after the other; a registry may have several turns. All of them succeed. A name that
had a value keeps it. Under any other name stands in the end the value of the first setting of that
name, in the order of the turns, that may write and has a value; nil if no such setting has a value,
but some may write; and what was there at first if none of them may write. -/
theorem supplyAll_settled {calls : List Settings} (reached : ∀ r ∈ calls, Reached r)
    (vars : Variables) :
    ∃ after, calls.forM supply vars = .ok () after ∧ ∀ name,
      (vars.has name = true → after.table.get? name = vars.table.get? name) ∧
      (vars.has name = false →
        (∀ before s later, writers name calls = before ++ s :: later →
          (∀ t ∈ before, t.isEmpty = true) → s.isEmpty = false →
            after.table.get? name = some s.value) ∧
        (writers name calls ≠ [] → (∀ s ∈ writers name calls, s.isEmpty = true) →
          after.table.get? name = some .nil) ∧
        (writers name calls = [] → after.table.get? name = vars.table.get? name)) := by
  obtain ⟨after, outcome, settled⟩ := get?_of_supplyAll reached vars
  refine ⟨after, outcome, fun name => ?_⟩
  rw [Variables.has_eq_hasValue, settled]
  refine ⟨fun present => Setting.foldl_settle_of_value present _, fun absent => ⟨?_, ?_, ?_⟩⟩
  · intro before s later split empty full
    rw [split]
    exact Setting.foldl_settle_of_first absent empty full
  · intro some_writer empty
    rw [Setting.foldl_settle_of_empty absent empty, if_neg some_writer]
  · intro no_writer
    rw [no_writer]
    rfl

/-- Two texts that may be written and have no value yet. -/
def blank : Settings :=
  Op.apply (.add "banner" (.exact .string) .nil .write "")
    (Op.apply (.add "host" (.exact .string) .nil .write "") .empty)

/-- A host and a number of retries. -/
def primary : Settings :=
  Op.apply (.addInferred "retries" (.int 3) .write "")
    (Op.apply (.addInferred "host" (.string "localhost") .write "") .empty)

/-- Another host. -/
def fallback : Settings := Op.apply (.addInferred "host" (.string "backup") .write "") .empty

theorem host_supplied_first :
    let vars := Variables.empty.insert "retries" (.int 5)
    let calls := [blank, primary, fallback]
    (∀ r ∈ calls, Reached r) ∧ ∃ after, calls.forM supply vars = .ok () after ∧
      after.table.get? "host" = some (.string "localhost") ∧
      after.table.get? "banner" = some .nil ∧ after.table.get? "retries" = some (.int 5) ∧
      after.table.get? "port" = none := by
  intro vars calls
  have reached : ∀ r ∈ calls, Reached r := by
    simp only [calls, List.forall_mem_cons, List.not_mem_nil, false_implies, implies_true, and_true]
    exact ⟨.apply _ (.apply _ .empty), .apply _ (.apply _ .empty), .apply _ .empty⟩
  have host : writers "host" calls =
      [⟨"host", "", .write, .exact .string, .nil⟩,
        ⟨"host", "", .write, .exact .string, .string "localhost"⟩,
        ⟨"host", "", .write, .exact .string, .string "backup"⟩] := rfl
  have banner : writers "banner" calls = [⟨"banner", "", .write, .exact .string, .nil⟩] := rfl
  have port : writers "port" calls = [] := rfl
  obtain ⟨after, outcome, settled⟩ := supplyAll_settled reached vars
  refine ⟨reached, after, outcome, ?_, ?_, ?_, ?_⟩
  · refine ((settled "host").2 rfl).1 [_] _ [_] host ?_ rfl
    simp [Setting.isEmpty, Value.isNil]
  · refine ((settled "banner").2 rfl).2.1 ?_ ?_
    · simp [banner]
    · simp [banner, Setting.isEmpty, Value.isNil]
  · exact (settled "retries").1 rfl
  · exact ((settled "port").2 rfl).2.2 port

end Settings

end ScriptBridge
