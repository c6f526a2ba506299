import ScriptBridge.Proofs.BindBatch

/-!
# Variables that are listed and variables that can be read

An engine lists the names in its table of variables, and it reads a variable unless the name is
reserved. Every operation sees to it that a name is not both: a reserved name is not written, and a
builtin does not take the name of a variable. Only the end of loading does not look. The names of
the catalogue are reserved then, also those without a function, and the loader may have set
variables of these names. Such a variable is listed for good and can never be read.

Results:
1. `mem_variableNames_iff`, `get_eq_ok_iff`: which names are listed, and which can be read.
2. `stranded_iff_of_changes`, `stranded_iff_of_load`: nothing but loading makes a listed variable
   unreadable.
3. `listed_iff_readable`: the variables that are listed are those that can be read, up to those that
   the loader has left under the name of an entry without a function.
-/

namespace ScriptBridge

open Relation

namespace Engine

variable {ε : Type}

/-! ## 1. Listing and reading a name -/

theorem mem_variableNames_iff {e : Engine ε} {name : String} :
    name ∈ e.variableNames ↔ e.vars.defines name = true :=
  NameTable.mem_names_iff.trans (NameTable.contains_iff _ _).symm

theorem get_eq_ok_iff {e : Engine ε} {name : String} :
    (∃ v, e.get name = .ok v) ↔ e.isReserved name = false ∧ e.vars.defines name = true := by
  unfold get Variables.get Variables.defines
  cases e.isReserved name with
  | true => simp
  | false =>
    rw [NameTable.contains_iff]
    cases e.vars.table.get? name <;> simp

/-! ## 2. Variables that cannot be read -/

/-- The name is a variable, and it is not available as one. -/
def Stranded (e : Engine ε) (name : String) : Prop :=
  e.vars.defines name = true ∧ e.isReserved name = true

/-- Such a name is no builtin, so it is one of the reserved names. -/
theorem stranded_iff {e : Engine ε} {name : String} (held : WellFormed e) :
    e.Stranded name ↔ e.vars.defines name = true ∧ name ∈ e.reserved := by
  refine and_congr_right fun defined => ?_
  have noBuiltin : e.isBuiltin name = false := by
    cases builtin : e.isBuiltin name with
    | false => rfl
    | true =>
      rw [held.apart name builtin] at defined
      cases defined
  rw [isReserved, noBuiltin, Bool.false_or, List.contains_iff_mem]

/-- A reserved name is neither defined nor given up as a variable. -/
theorem defines_of_changes {e e' : Engine ε} {name : String} (changes : Changes e e')
    (reserved : e.isReserved name = true) : e'.vars.defines name = e.vars.defines name := by
  induction changes with
  | refl => rfl
  | @tail f g before change ih =>
    rw [← ih]
    cases change with
    | equip => rfl
    | bind => rfl
    | reserve => rfl
    | @write other v free =>
      have different : other ≠ name := by
        rintro rfl
        rw [(kept_of_changes before).reserved other reserved] at free
        cases free
      rw [defines_putVariable, decide_eq_false different, Bool.false_or]

/-- As long as no further name is reserved, no variable becomes unreadable, and none that was comes
back. -/
theorem stranded_iff_of_changes {e e' : Engine ε} {name : String} (held : WellFormed e)
    (changes : Changes e e') (same : e'.reserved = e.reserved) :
    e'.Stranded name ↔ e.Stranded name := by
  rw [stranded_iff held, stranded_iff (wellFormed_of_changes changes held), same]
  refine and_congr_left fun listed => ?_
  have reserved : e.isReserved name = true := by
    rw [isReserved, List.contains_iff_mem.mpr listed, Bool.or_true]
  rw [defines_of_changes changes reserved]

/-! ### Loading -/

/-- The name is a variable of the engine that the loader leaves, and it stands without a function in
the catalogue that the loader answers. -/
def Overlooked (loader : Engine ε → Engine ε × Catalogue) (name : String) : Prop :=
  (loader new).1.vars.defines name = true ∧ (loader new).2.get? name = some .nil

theorem stranded_iff_of_load {loader : Engine ε → Engine ε × Catalogue} {e : Engine ε}
    {name : String} (held : WellFormed (loader new).1) (loaded : load loader = .ok e) :
    e.Stranded name ↔ (loader new).1.Stranded name ∨ Overlooked loader name := by
  have heldAfter := wellFormed_of_changes (changes_load loaded) held
  obtain ⟨f, bound, rfl⟩ := load_eq_ok_iff.mp loaded
  have full := bound_of_bindAll bound
  have sameVars := full.only.same_vars
  rw [stranded_iff heldAfter, stranded_iff held, Overlooked, ← and_or_left]
  simp only [sameVars, full.only.same_reserved, List.mem_append]
  refine and_congr_right fun defined => ?_
  rw [or_comm]
  refine or_congr_right ?_
  rw [Catalogue.names, NameTable.mem_names_iff]
  constructor
  · rintro ⟨v, listed⟩
    rcases eq_or_ne v .nil with rfl | present
    · exact listed
    · -- the entry was bound, and no builtin has the name of a variable
      have builtin := full.isBuiltin_iff.mpr (.inr ⟨trivial, v, listed, present⟩)
      have undefined := heldAfter.apart name builtin
      rw [sameVars, defined] at undefined
      cases undefined
  · intro listed
    exact ⟨_, listed⟩

/-! ## 3. Engines that were made in any way -/

/-- `Made hidden e`: the engine `e` is new or comes from a loader, which may do anything to the
engine that it gets, and then operations were done to it in any order, with any outcomes. `hidden`
are the names of the variables that a loader overlooked. -/
inductive Made : (String → Prop) → Engine ε → Prop
  | new : Made (fun _ => False) new
  | load {hidden : String → Prop} {loader : Engine ε → Engine ε × Catalogue} {e : Engine ε} :
      Made hidden (loader Engine.new).1 → Engine.load loader = .ok e →
      Made (fun name => hidden name ∨ Overlooked loader name) e
  | op {hidden : String → Prop} {e : Engine ε} (op : Op ε) :
      Made hidden e → Made hidden (op.apply e)

theorem stranded_iff_of_made {hidden : String → Prop} {e : Engine ε} (made : Made hidden e) :
    WellFormed e ∧ ∀ name, e.Stranded name ↔ hidden name := by
  induction made with
  | new =>
    refine ⟨wellFormed_new, fun name => iff_of_false ?_ id⟩
    rintro ⟨defined, _⟩
    cases defined
  | load _ loaded ih =>
    obtain ⟨held, stranded⟩ := ih
    refine ⟨wellFormed_of_changes (changes_load loaded) held, fun name => ?_⟩
    rw [stranded_iff_of_load held loaded, stranded name]
  | @op hidden e op _ ih =>
    obtain ⟨held, stranded⟩ := ih
    have changes := changes_of_apply op e
    refine ⟨wellFormed_of_changes changes held, fun name => ?_⟩
    rw [stranded_iff_of_changes held changes (reserved_apply op e), stranded name]

/-- On an engine that was made in any way, a name that no loader has overlooked is listed as a
variable exactly when it can be read. One that a loader has overlooked is listed all the time, and
reading it fails as it does for a builtin. -/
theorem listed_iff_readable {hidden : String → Prop} {e : Engine ε} (made : Made hidden e)
    (name : String) :
    (¬ hidden name → ((∃ v, e.get name = .ok v) ↔ name ∈ e.variableNames)) ∧
    (hidden name → name ∈ e.variableNames ∧ e.get name = .error (.notReadable name)) := by
  obtain ⟨_, stranded⟩ := stranded_iff_of_made made
  rw [get_eq_ok_iff, mem_variableNames_iff, ← stranded name]
  constructor
  · intro available
    refine and_iff_right_of_imp fun defined => ?_
    cases reserved : e.isReserved name with
    | false => rfl
    | true => exact absurd ⟨defined, reserved⟩ available
  · rintro ⟨defined, reserved⟩
    exact ⟨defined, (unavailable_of_isReserved reserved).2.1⟩

/-- Sets two variables and answers a catalogue that has the name of one of them, without a
function. -/
def careless (e : Engine Unit) : Engine Unit × Catalogue :=
  ((Op.set "unused" (.int 1)).apply ((Op.set "greeting" (.string "hello")).apply e),
    ⟨.ofList [("unused", .nil)]⟩)

theorem greeting_listed_iff_readable : ∃ e : Engine Unit, load careless = .ok e ∧
    Made (fun name => False ∨ Overlooked careless name) e ∧ ¬ Overlooked careless "greeting" ∧
    ((∃ v, e.get "greeting" = .ok v) ↔ "greeting" ∈ e.variableNames) ∧
    "unused" ∈ e.variableNames := by
  have loaded : ∃ e, load careless = .ok e := ⟨_, rfl⟩
  obtain ⟨e, loaded⟩ := loaded
  have left : Made (fun _ => False) (careless new).1 :=
    .op (.set "unused" (.int 1)) (.op (.set "greeting" (.string "hello")) .new)
  have made : Made (fun name => False ∨ Overlooked careless name) e := .load left loaded
  have attended : ¬ Overlooked careless "greeting" := by
    rintro ⟨_, listed⟩
    cases listed
  have overlooked : Overlooked careless "unused" := ⟨rfl, rfl⟩
  refine ⟨e, loaded, made, attended, ?_, ?_⟩
  · exact (listed_iff_readable made "greeting").1 fun hidden => hidden.elim id attended
  · exact ((listed_iff_readable made "unused").2 (.inr overlooked)).1

/-- A loaded engine lists a variable that cannot be read. -/
theorem careless_lists_unreadable : ∃ e : Engine Unit, load careless = .ok e ∧
    "unused" ∈ e.variableNames ∧ e.get "unused" = .error (.notReadable "unused") := by
  refine ⟨_, rfl, ?_, rfl⟩
  rw [mem_variableNames_iff]
  rfl

end Engine

end ScriptBridge
