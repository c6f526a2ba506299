import Mathlib.Logic.Basic
import ScriptBridge.Proofs.EngineFrame
import ScriptBridge.Proofs.NameOrder

/-!
# Binding a catalogue

A catalogue is bound entry by entry in ascending order of names, and the first entry that is refused
ends the batch. Here the batch is told without the traversal. Whether an entry is refused, and why,
can be seen from the engine as it was at first (`Engine.Refuses`), since the entries in front of it
have other names; the least refused entry decides, and the functions in front of it are bound
(`Engine.Bound`).

Results:
1. `validate_eq_error_iff`, `bindEntry_cases`: one entry.
2. `forM_bindEntry_cases`: a list of entries of different names.
3. `bindAll_cases`: a catalogue.
4. `isReserved_of_load`: the names that are reserved after loading.
5. `bindAll_settled`: both together.
-/

namespace ScriptBridge

/-! ## 1. One entry -/

theorem Signature.validate_eq_error_iff {name : String} {s : Signature} {breach : ContractBreach} :
    s.validate name = .error breach ↔
      2 < s.returns.length ∧ breach = .tooManyReturns name s.returns.length ∨
      ∃ first second, s.returns = [first, .value second] ∧
        breach = .secondNotError name second.name := by
  unfold validate
  match s.returns with
  | [] => simp
  | [_] => simp
  | [_, .error] => simp
  | [_, .value type] => simp [and_assoc, eq_comm]
  | _ :: _ :: _ :: rest => simp [eq_comm]

namespace Engine

variable {ε : Type} {e e' : Engine ε} {name other : String} {v w : Value}
  {error : RegistrationError}

/-- Why an entry of a catalogue is not bound. A fault of the value itself comes before a name that is
taken, and a builtin of the name before a variable. -/
inductive Refuses (e : Engine ε) (name : String) : Value → RegistrationError → Prop
  | notAFunction {v : Value} :
      v ≠ .nil → (∀ fn, v ≠ .func fn) → Refuses e name v (.contract (.notAFunction name v.typeName))
  | tooManyReturns {fn : HostFn} :
      2 < fn.signature.returns.length →
      Refuses e name (.func fn)
        (.contract (.tooManyReturns name fn.signature.returns.length))
  | secondNotError {fn : HostFn} {first : ReturnKind} {second : ValueType} :
      fn.signature.returns = [first, .value second] →
      Refuses e name (.func fn) (.contract (.secondNotError name second.name))
  | isFunction {fn : HostFn} :
      fn.signature.Bindable → e.isBuiltin name = true →
      Refuses e name (.func fn) (.scope (.isFunction name))
  | alreadyDefined {fn : HostFn} :
      fn.signature.Bindable → e.isBuiltin name = false → e.vars.defines name = true →
      Refuses e name (.func fn) (.scope (.alreadyDefined name))

/-- The engine with the function of an entry, if there is one, as a builtin. -/
def putEntry (name : String) (v : Value) (e : Engine ε) : Engine ε :=
  match v with
  | .func fn => e.putBuiltin ⟨name, fn⟩
  | _ => e

theorem not_refuses_of_free {fn : HostFn} (bindable : fn.signature.Bindable)
    (free : e.isBuiltin name = false) (undefined : e.vars.defines name = false)
    (error : RegistrationError) : ¬ Refuses e name (.func fn) error := by
  intro refused
  cases refused with
  | notAFunction _ other => exact other fn rfl
  | tooManyReturns many => exact absurd bindable.at_most_two (Nat.not_le.mpr many)
  | secondNotError returns =>
    have second := bindable.second_error _ (by rw [returns]; rfl)
    cases second
  | isFunction _ builtin =>
    rw [free] at builtin
    cases builtin
  | alreadyDefined _ _ defined =>
    rw [undefined] at defined
    cases defined

theorem define_cases (name : String) (fn : HostFn) (e : Engine ε) :
    (∀ error, ¬ Refuses e name (.func fn) error) ∧
      define name fn e = .ok () (e.putBuiltin ⟨name, fn⟩) ∨
    ∃ error, Refuses e name (.func fn) error ∧ define name fn e = .error error e := by
  cases valid : fn.signature.validate name with
  | error breach =>
    have failed : define name fn e = .error (.contract breach) e := by
      simp [define, Builtin.bind, valid]
    refine .inr ⟨_, ?_, failed⟩
    rcases Signature.validate_eq_error_iff.mp valid with
      ⟨many, rfl⟩ | ⟨first, second, returns, rfl⟩
    · exact .tooManyReturns many
    · exact .secondNotError returns
  | ok u =>
    have bindable := Signature.validate_eq_ok_iff.mp valid
    have installs : define name fn e =
        (install name ⟨name, fn⟩).adaptExcept RegistrationError.scope e := by
      simp [define, Builtin.bind, valid]
    rw [installs]
    cases builtin : e.isBuiltin name with
    | true =>
      refine .inr ⟨_, .isFunction bindable builtin, ?_⟩
      simp [EStateM.adaptExcept, install, builtin]
    | false =>
      cases defined : e.vars.defines name with
      | true =>
        refine .inr ⟨_, .alreadyDefined bindable builtin defined, ?_⟩
        simp [EStateM.adaptExcept, install, builtin, defined]
      | false =>
        refine .inl ⟨not_refuses_of_free bindable builtin defined, ?_⟩
        rw [adaptExcept_eq_ok_iff, install_eq_ok_iff]
        exact ⟨⟨builtin, defined⟩, rfl⟩

/-- An entry without a function is skipped if it is nil and refused otherwise; a function is defined
under the name of its entry. -/
theorem bindEntry_cases (name : String) (v : Value) (e : Engine ε) :
    (∀ error, ¬ Refuses e name v error) ∧
      Catalogue.bindEntry name v e = .ok () (e.putEntry name v) ∨
    ∃ error, Refuses e name v error ∧ Catalogue.bindEntry name v e = .error error e := by
  cases v with
  | func fn => exact define_cases name fn e
  | nil =>
    refine .inl ⟨fun error refused => ?_, rfl⟩
    cases refused with
    | notAFunction present _ => exact present rfl
  | _ => exact .inr ⟨_, .notAFunction nofun nofun, rfl⟩

/-! ## 2. Entries of different names -/

/-- The engine with the functions of some entries as builtins. -/
def putEntries (items : List (String × Value)) (e : Engine ε) : Engine ε :=
  items.foldl (fun e (name, v) => e.putEntry name v) e

theorem onlyBuiltins_putEntry (name : String) (v : Value) (e : Engine ε) :
    OnlyBuiltins e (e.putEntry name v) := by
  cases v with
  | func fn => exact ⟨_, rfl⟩
  | _ => exact .refl e

theorem builtin?_putEntry_of_ne (different : name ≠ other) (v : Value) (e : Engine ε) :
    (e.putEntry name v).builtin? other = e.builtin? other := by
  cases v with
  | func fn =>
    show (e.putBuiltin ⟨name, fn⟩).builtin? other = e.builtin? other
    rw [builtin?_putBuiltin, if_neg different]
  | _ => rfl

/-- An engine refuses what another one refuses that has the same variables and as much of a builtin
of that name. -/
theorem Refuses.of_same (refused : Refuses e name v error)
    (builtin : e'.isBuiltin name = e.isBuiltin name) (vars : e'.vars = e.vars) :
    Refuses e' name v error := by
  cases refused with
  | notAFunction present value => exact .notAFunction present value
  | tooManyReturns many => exact .tooManyReturns many
  | secondNotError returns => exact .secondNotError returns
  | isFunction bindable taken => exact .isFunction bindable (builtin.trans taken)
  | alreadyDefined bindable free defined =>
    exact .alreadyDefined bindable (builtin.trans free) (vars ▸ defined)

/-- What is bound under one name is no reason to refuse or to accept another. -/
theorem refuses_putEntry_iff (different : name ≠ other) :
    Refuses (e.putEntry name v) other w error ↔ Refuses e other w error := by
  have builtin : (e.putEntry name v).isBuiltin other = e.isBuiltin other :=
    congrArg Option.isSome (builtin?_putEntry_of_ne different v e)
  have vars := (onlyBuiltins_putEntry name v e).same_vars
  exact ⟨fun refused => refused.of_same builtin.symm vars.symm,
    fun refused => refused.of_same builtin vars⟩

/-- None of some entries is refused. -/
def Accepts (e : Engine ε) (items : List (String × Value)) : Prop :=
  ∀ name v error, (name, v) ∈ items → ¬ Refuses e name v error

theorem accepts_cons {items : List (String × Value)} (fresh : name ∉ items.map Prod.fst)
    (first : ∀ error, ¬ Refuses e name v error) (behind : (e.putEntry name v).Accepts items) :
    e.Accepts ((name, v) :: items) := by
  intro other w error member
  rcases List.mem_cons.mp member with same | later
  · cases same
    exact first error
  · have different : name ≠ other := by
      rintro rfl
      exact fresh (List.mem_map_of_mem (f := Prod.fst) later)
    rw [← refuses_putEntry_iff different]
    exact behind other w error later

/-- A list of entries is bound to its end if the engine refuses none of them, and up to the first
that it refuses otherwise. -/
theorem forM_bindEntry_cases {items : List (String × Value)}
    (distinct : (items.map Prod.fst).Nodup) (e : Engine ε) :
    e.Accepts items ∧
      (items.forM fun (name, v) => Catalogue.bindEntry name v) e = .ok () (e.putEntries items) ∨
    ∃ before name v later error, items = before ++ (name, v) :: later ∧ e.Accepts before ∧
      Refuses e name v error ∧
      (items.forM fun (name, v) => Catalogue.bindEntry name v) e =
        .error error (e.putEntries before) := by
  induction items generalizing e with
  | nil => exact .inl ⟨fun _ _ _ member => absurd member List.not_mem_nil, rfl⟩
  | cons item rest ih =>
    obtain ⟨name, v⟩ := item
    obtain ⟨fresh, distinct⟩ := List.nodup_cons.mp distinct
    rcases bindEntry_cases name v e with ⟨accepted, bound⟩ | ⟨error, refused, failed⟩
    · have step : (((name, v) :: rest).forM fun (name, v) => Catalogue.bindEntry name v) e =
          (rest.forM fun (name, v) => Catalogue.bindEntry name v) (e.putEntry name v) :=
        forM_cons_of_ok bound
      rw [step]
      rcases ih distinct (e.putEntry name v) with
        ⟨free, outcome⟩ | ⟨before, other, w, later, error, rfl, free, refused, outcome⟩
      · exact .inl ⟨accepts_cons fresh accepted free, outcome⟩
      · rw [List.map_append, List.map_cons, List.mem_append, List.mem_cons, not_or, not_or] at fresh
        obtain ⟨front, different, _⟩ := fresh
        exact .inr ⟨(name, v) :: before, other, w, later, error, rfl,
          accepts_cons front accepted free, (refuses_putEntry_iff different).mp refused, outcome⟩
    · refine .inr ⟨[], name, v, rest, error, rfl, ?_, refused, ?_⟩
      · exact fun _ _ _ member => absurd member List.not_mem_nil
      · exact forM_cons_of_error failed

theorem onlyBuiltins_putEntries (items : List (String × Value)) (e : Engine ε) :
    OnlyBuiltins e (e.putEntries items) := by
  induction items generalizing e with
  | nil => exact .refl e
  | cons item rest ih =>
    exact (onlyBuiltins_putEntry item.1 item.2 e).trans (ih (e.putEntry item.1 item.2))

/-- Only the functions among some entries change what is bound under a name. -/
theorem builtin?_putEntries_of_notMem {items : List (String × Value)}
    (absent : ∀ fn, (name, .func fn) ∉ items) (e : Engine ε) :
    (e.putEntries items).builtin? name = e.builtin? name := by
  induction items generalizing e with
  | nil => rfl
  | cons item rest ih =>
    obtain ⟨other, v⟩ := item
    have behind : ∀ fn, (name, .func fn) ∉ rest := fun fn member =>
      absent fn (List.mem_cons_of_mem _ member)
    show ((e.putEntry other v).putEntries rest).builtin? name = e.builtin? name
    rw [ih behind]
    cases v with
    | func fn =>
      refine builtin?_putEntry_of_ne ?_ _ e
      rintro rfl
      exact absent fn List.mem_cons_self
    | _ => rfl

/-- Each function among entries of different names is bound under the name of its entry. -/
theorem builtin?_putEntries_of_mem {items : List (String × Value)} {fn : HostFn}
    (distinct : (items.map Prod.fst).Nodup) (member : (name, .func fn) ∈ items) (e : Engine ε) :
    (e.putEntries items).builtin? name = some ⟨name, fn⟩ := by
  induction items generalizing e with
  | nil => cases member
  | cons item rest ih =>
    obtain ⟨fresh, distinct⟩ := List.nodup_cons.mp distinct
    rcases List.mem_cons.mp member with rfl | later
    · have behind : ∀ other, (name, .func other) ∉ rest := fun _ later =>
        fresh (List.mem_map.mpr ⟨_, later, rfl⟩)
      show ((e.putBuiltin ⟨name, fn⟩).putEntries rest).builtin? name = some ⟨name, fn⟩
      rw [builtin?_putEntries_of_notMem behind, builtin?_putBuiltin, if_pos rfl]
    · exact ih distinct later _

/-! ## 3. Catalogues -/

/-- What an engine is after the entries of the passed names are bound: nothing but the builtins is
different, and of these only those under the names of passed entries, nil ones apart. Each of them is
the function of its entry then, under the name of the entry. -/
structure Bound (c : Catalogue) (passed : String → Prop) (e e' : Engine ε) : Prop where
  only : OnlyBuiltins e e'
  entered : ∀ name v, passed name → c.get? name = some v → v ≠ .nil →
    ∃ fn, v = .func fn ∧ e'.builtin? name = some ⟨name, fn⟩
  others : ∀ name, ¬ passed name ∨ c.get? name = none ∨ c.get? name = some .nil →
    e'.builtin? name = e.builtin? name

theorem mem_sorted_iff {c : Catalogue} : (name, v) ∈ c.table.sorted ↔ c.get? name = some v :=
  mem_sortBy.trans NameTable.get?_eq_some_iff.symm

theorem bound_putEntries {c : Catalogue} {passed : String → Prop} {items : List (String × Value)}
    (distinct : (items.map Prod.fst).Nodup)
    (inside : ∀ name v, (name, v) ∈ items ↔ c.get? name = some v ∧ passed name)
    (free : e.Accepts items) : Bound c passed e (e.putEntries items) := by
  refine ⟨onlyBuiltins_putEntries items e, ?_, ?_⟩
  · intro name v pass listed present
    have member := (inside name v).mpr ⟨listed, pass⟩
    cases v with
    | func fn => exact ⟨fn, rfl, builtin?_putEntries_of_mem distinct member e⟩
    | _ => exact absurd (.notAFunction present nofun) (free _ _ _ member)
  · intro name outside
    refine builtin?_putEntries_of_notMem (fun fn member => ?_) e
    obtain ⟨listed, pass⟩ := (inside name _).mp member
    rcases outside with failed | missing | absent
    · exact failed pass
    · rw [missing] at listed
      cases listed
    · rw [absent] at listed
      cases listed

theorem Bound.isBuiltin_iff {c : Catalogue} {passed : String → Prop} (bound : Bound c passed e e') :
    e'.isBuiltin name = true ↔
      e.isBuiltin name = true ∨ passed name ∧ ∃ v, c.get? name = some v ∧ v ≠ .nil := by
  have untouched (outside : ¬ passed name ∨ c.get? name = none ∨ c.get? name = some .nil) :
      e'.isBuiltin name = e.isBuiltin name := congrArg Option.isSome (bound.others name outside)
  by_cases pass : passed name
  · cases listed : c.get? name with
    | none => simp [untouched (.inr (.inl listed))]
    | some v =>
      rcases eq_or_ne v .nil with rfl | present
      · simp [untouched (.inr (.inr listed))]
      · obtain ⟨fn, _, found⟩ := bound.entered name v pass listed present
        refine iff_of_true ?_ (.inr ⟨pass, v, rfl, present⟩)
        exact congrArg Option.isSome found
  · simp [untouched (.inl pass), pass]

/-- A catalogue is bound to its end if the engine refuses none of its entries. Otherwise the least
entry that is refused decides, and the entries in front of it are bound. -/
theorem bindAll_cases (c : Catalogue) (e : Engine ε) :
    ((∀ name v error, c.get? name = some v → ¬ Refuses e name v error) ∧
      ∃ e', c.bindAll e = .ok () e' ∧ Bound c (fun _ => True) e e') ∨
    ∃ name v error e', c.get? name = some v ∧ Refuses e name v error ∧
      (∀ other w error', c.get? other = some w → Refuses e other w error' → name ≤ other) ∧
      c.bindAll e = .error error e' ∧ Bound c (· < name) e e' := by
  have ascending : (c.table.sorted.map Prod.fst).Pairwise (· < ·) :=
    strictlyAscending_sortBy c.table.distinct
  have distinct := nodup_of_strictlyAscending ascending
  rcases forM_bindEntry_cases distinct e with
    ⟨free, outcome⟩ | ⟨before, name, v, later, error, split, free, refused, outcome⟩
  · refine .inl ⟨?_, _, outcome, bound_putEntries distinct (fun name v => ?_) free⟩
    · exact fun name v error listed => free name v error (mem_sorted_iff.mpr listed)
    · rw [mem_sorted_iff, and_true]
  · rw [split] at ascending distinct
    have front (other : String) (w : Value) :
        (other, w) ∈ before ↔ c.get? other = some w ∧ other < name := by
      rw [mem_before_iff ascending, ← split, mem_sorted_iff]
    have listed : c.get? name = some v := mem_sorted_iff.mp (by simp [split])
    rw [List.map_append] at distinct
    refine .inr ⟨name, v, error, _, listed, refused, ?_, outcome,
      bound_putEntries (List.nodup_append.mp distinct).1 front free⟩
    intro other w error' found refused'
    refine String.not_lt.mp fun less => ?_
    exact free other w error' ((front other w).mpr ⟨found, less⟩) refused'

theorem bound_of_bindAll {c : Catalogue} (done : c.bindAll e = .ok () e') :
    Bound c (fun _ => True) e e' := by
  rcases bindAll_cases c e with ⟨_, f, outcome, bound⟩ | ⟨_, _, _, _, _, _, _, outcome, _⟩
  · cases done.symm.trans outcome
    exact bound
  · cases done.symm.trans outcome

/-! ## 4. Loading -/

/-- After loading, the names of the catalogue are reserved and those that the loader has made
builtins. -/
theorem isReserved_of_load {loader : Engine ε → Engine ε × Catalogue} {ops : List (Op ε)}
    (acts : (loader new).1 = Op.runs ops new) (loaded : load loader = .ok e) (name : String) :
    e.isReserved name = true ↔
      name ∈ (loader new).2.names ∨ (loader new).1.isBuiltin name = true := by
  obtain ⟨f, done, rfl⟩ := load_eq_ok_iff.mp loaded
  have bound := bound_of_bindAll done
  have nothing : f.reserved = [] := by
    rw [bound.only.same_reserved, acts, reserved_runs]
    rfl
  have builtin : f.isBuiltin name = true ↔ _ := bound.isBuiltin_iff
  show (f.isBuiltin name || ((loader new).2.names ++ f.reserved).contains name) = true ↔ _
  rw [nothing, List.append_nil, Bool.or_eq_true, List.contains_iff_mem, builtin]
  constructor
  · rintro ((taken | ⟨_, v, listed, _⟩) | listed)
    · exact .inr taken
    · exact .inl (NameTable.mem_names_iff.mpr ⟨v, listed⟩)
    · exact .inl listed
  · rintro (listed | taken)
    · exact .inr listed
    · exact .inl (.inl taken)

/-! ## 5. Binding and loading -/

/-- A catalogue is bound on any engine. If the engine refuses none of its entries, the batch succeeds
and has bound all of them. Otherwise the batch fails as the least of the refused entries does: a
value that is no function, or whose returns cannot be bound, is a breach of contract even where the
name is taken, and else a builtin of the name comes before a variable. The entries in front of it
are bound then, and nothing else is changed. A loader that does to its engine what a host may do
leaves, if loading succeeds, exactly those names reserved that stand in its catalogue, without a
function too, or are builtins by its doing. -/
theorem bindAll_settled :
    (∀ (c : Catalogue) (e : Engine ε),
      ((∀ name v error, c.get? name = some v → ¬ Refuses e name v error) ∧
        ∃ e', c.bindAll e = .ok () e' ∧ Bound c (fun _ => True) e e') ∨
      ∃ name v error e', c.get? name = some v ∧ Refuses e name v error ∧
        (∀ other w error', c.get? other = some w → Refuses e other w error' → name ≤ other) ∧
        c.bindAll e = .error error e' ∧ Bound c (· < name) e e') ∧
    ∀ (loader : Engine ε → Engine ε × Catalogue) (ops : List (Op ε)) (e : Engine ε),
      (loader new).1 = Op.runs ops new → load loader = .ok e →
        ∀ name, e.isReserved name = true ↔
          name ∈ (loader new).2.names ∨ (loader new).1.isBuiltin name = true :=
  ⟨bindAll_cases, fun _ _ _ acts loaded => isReserved_of_load acts loaded⟩

/-- Tells the size of a text. -/
def measure : HostFn := ⟨0, [.exact .string], none, [.value (.exact .int)]⟩

/-- Sets a greeting, makes a builtin, and answers a function and a name without one. -/
def opener (e : Engine Unit) : Engine Unit × Catalogue :=
  (Op.runs [.set "greeting" (.string "hello"), .define "count" measure] e,
    ⟨.ofList [("size", .func measure), ("again", .nil)]⟩)

theorem opener_reserves : ∃ e : Engine Unit,
    (opener new).1 =
      Op.runs [.set "greeting" (.string "hello"), .define "count" measure] new ∧
    load opener = .ok e ∧ e.isReserved "size" = true ∧ e.isReserved "again" = true ∧
      e.isReserved "count" = true ∧ e.isReserved "greeting" = false := by
  have loaded : ∃ e, load opener = .ok e := ⟨_, rfl⟩
  obtain ⟨e, loaded⟩ := loaded
  have names : (opener new).2.names = ["again", "size"] := rfl
  have reserved := (@bindAll_settled Unit).2 opener _ e rfl loaded
  refine ⟨e, rfl, loaded, ?_, ?_, ?_, ?_⟩
  · exact (reserved "size").mpr (.inl (by simp [names]))
  · exact (reserved "again").mpr (.inl (by simp [names]))
  · exact (reserved "count").mpr (.inr rfl)
  · have free : (opener new).1.isBuiltin "greeting" = false := rfl
    rw [← Bool.not_eq_true, reserved, names, free]
    simp

/-- A function, a name without one, and a plain value between them. -/
def toolbox : Catalogue :=
  ⟨.ofList [("size", .func measure), ("limit", .int 3), ("again", .nil), ("count", .func measure)]⟩

example : ∃ e : Engine Unit,
    toolbox.bindAll new = .error (.contract (.notAFunction "limit" "int")) e ∧
      e.builtinNames = ["count"] :=
  ⟨_, rfl, rfl⟩

end Engine

end ScriptBridge
