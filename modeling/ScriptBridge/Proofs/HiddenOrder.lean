import ScriptBridge.Engine.Basic
import ScriptBridge.Proofs.PushBatch
import ScriptBridge.Proofs.RegistryLife
import ScriptBridge.Proofs.TableOrder

/-!
# The hidden order of registries

A registry and a catalogue keep their entries in tables, and nobody can tell in which order these hold
them. A registry may find its settings in another order after every operation (`ReachedAnyhow`): it
still lists the registered names once each, in ascending order, and its settings under these names; and
its batches do the same, call by call, to any scope. So does a catalogue, and what it is overwritten
with may be read in any order.

Results:
1. `byName_reordered`, `endsAlike_pull`: the batches visit the settings in one order;
   `reordered_apply`, `reached_of_reachedAnyhow`: an operation does the same to the same settings in
   another order, so rearranging a registry between operations changes nothing but the order.
2. `Settings.orderHidden_of_reachedAnyhow`: what a registry shows.
3. `Catalogue.orderHidden`: what a catalogue shows.
4. `order_hidden`: all of this, for engines too, and the laws of overwriting.
-/

namespace ScriptBridge

namespace Settings

/-! ## 1. Rearranged registries -/

/-- The registries hold the same settings under the same names. -/
def Reordered (r u : Settings) : Prop := r.table.Reordered u.table

/-- The registries that are reached from the empty one by operations, when the settings may be found
in another order at any time. -/
inductive ReachedAnyhow : Settings → Prop
  | empty : ReachedAnyhow .empty
  | apply {r : Settings} (op : Op) : ReachedAnyhow r → ReachedAnyhow (op.apply r)
  | rearrange {r u : Settings} : ReachedAnyhow r → r.Reordered u → ReachedAnyhow u

/-- Two batches of pulls end alike: with the same answer, the same notes, and registries that hold the
same settings. -/
inductive EndsAlike {η : Type} : EStateM.Result SettingError (Settings × η) Unit →
    EStateM.Result SettingError (Settings × η) Unit → Prop
  | ok {r u : Settings} {notes : η} :
      r.Reordered u → EndsAlike (.ok () (r, notes)) (.ok () (u, notes))
  | error {r u : Settings} {e : SettingError} {notes : η} :
      r.Reordered u → EndsAlike (.error e (r, notes)) (.error e (u, notes))

variable {r u : Settings}

theorem Reordered.get? (same : r.Reordered u) (name : String) : u.get? name = r.get? name :=
  NameTable.Reordered.get? same name

theorem Reordered.contains (same : r.Reordered u) (name : String) :
    u.contains name = r.contains name :=
  congrArg Option.isSome (same.get? name)

theorem Reordered.put (same : r.Reordered u) (name : String) (s : Setting) :
    (r.put name s).Reordered (u.put name s) :=
  NameTable.Reordered.insert same name s

theorem Reordered.register (same : r.Reordered u) (name : String)
    (made : Except SettingError Setting) :
    (leaves (register name made) r).Reordered (leaves (register name made) u) := by
  unfold leaves Settings.register
  rw [same.contains]
  cases r.contains name with
  | true => exact same
  | false =>
    cases made with
    | ok s => exact same.put name s
    | error e => exact same

/-- The settings stand in another order, and they are visited in the same one. -/
theorem byName_reordered (reached : Reached r) (same : r.Reordered u) : u.byName = r.byName := by
  have distinct : (r.byName.map fun item => item.2.name).Nodup := by
    have names := nodup_names reached
    rwa [settings, List.map_map] at names
  refine (sorts_sortBy _ _).eq_of_perm (sorts_sortBy _ _) (List.Perm.symm same) ?_
  exact ((perm_sortBy _ _).map _).nodup_iff.mp distinct

section Pull

variable {σ : Type} [Scope σ] {η : Type} {scope : σ} {handler : Handler η}

theorem endsAlike_pullEach (items : List (String × Setting)) (same : r.Reordered u) (notes : η) :
    EndsAlike (pullEach scope handler items (r, notes)) (pullEach scope handler items (u, notes)) := by
  induction items generalizing r u notes with
  | nil => exact .ok same
  | cons item rest ih =>
    obtain ⟨name, s⟩ := item
    have stored := same.put name (s.pulled scope)
    cases outcome : s.failure? scope with
    | none =>
      rw [pullEach_of_pulled outcome, pullEach_of_pulled outcome]
      exact ih stored notes
    | some e =>
      cases answer : handler s e notes with
      | ok _ notes' =>
        rw [pullEach_of_excused outcome answer, pullEach_of_excused outcome answer]
        exact ih stored notes'
      | error e' notes' =>
        rw [pullEach_of_ended outcome answer, pullEach_of_ended outcome answer]
        exact .error stored

theorem endsAlike_pull (same : r.Reordered u) (visited : u.byName = r.byName) (scope : σ)
    (handler : Handler η) (notes : η) :
    EndsAlike (pull scope handler (r, notes)) (pull scope handler (u, notes)) := by
  rw [pull, pull, visited]
  exact endsAlike_pullEach r.byName same notes

end Pull

/-- An operation does the same to the same settings, in whatever order they are found. -/
theorem reordered_apply (reached : Reached r) (same : r.Reordered u) (op : Op) :
    (op.apply r).Reordered (op.apply u) := by
  cases op with
  | add name d default access description => exact same.register name _
  | addInferred name default access description => exact same.register name _
  | amend name op =>
    simp only [Op.apply, same.get?]
    cases r.get? name with
    | none => exact same
    | some s => exact same.put name _
  | pull scope handler notes =>
    have visited := byName_reordered reached same
    have alike := endsAlike_pull same visited scope handler notes
    simp only [Op.apply, leaves]
    generalize pull scope handler (r, notes) = left, pull scope handler (u, notes) = right at alike
    cases alike with
    | ok same => exact same
    | error same => exact same

/-- However often its settings are rearranged, a registry holds what it would hold without. -/
theorem reached_of_reachedAnyhow (anyhow : ReachedAnyhow u) :
    ∃ r, Reached r ∧ r.Reordered u := by
  induction anyhow with
  | empty => exact ⟨.empty, .empty, .refl _⟩
  | apply op _ ih =>
    obtain ⟨r, reached, same⟩ := ih
    exact ⟨op.apply r, .apply op reached, reordered_apply reached same op⟩
  | rearrange _ moved ih =>
    obtain ⟨r, reached, same⟩ := ih
    exact ⟨r, reached, same.trans moved⟩

/-! ## 2. What a registry shows -/

/-- The registry shows nothing of the order in which its settings are found, nor of how they are sorted
by their own names. It lists each registered name once, in strictly ascending order, and its settings
under these names one by one; a batch does to any scope, and to any handler of failures, what it does
if the settings are found in another order. -/
structure OrderHidden (r : Settings) : Prop where
  names : r.table.Lists r.names
  settings_names : r.settings.map Setting.name = r.names
  settings : ∀ (u : Settings) (listed : List Setting), r.Reordered u →
    Sorts Setting.name (u.table.entries.map Prod.snd) listed → listed = r.settings
  pushed : ∀ u : Settings, r.Reordered u →
    ∀ {σ : Type} [Scope σ] (p : Push) (scope : σ), p.batch u scope = p.batch r scope
  pulled : ∀ u : Settings, r.Reordered u →
    ∀ {σ : Type} [Scope σ] {η : Type} (scope : σ) (handler : Handler η) (notes : η),
      EndsAlike (pull scope handler (r, notes)) (pull scope handler (u, notes))

theorem sorts_settings (r : Settings) :
    Sorts Setting.name (r.table.entries.map Prod.snd) r.settings :=
  ⟨(perm_sortBy _ _).map Prod.snd, List.pairwise_map.mpr (ascending_sortBy _ _)⟩

theorem map_name_settings (reached : Reached r) : r.settings.map Setting.name = r.names := by
  have listed := r.table.lists_names
  have ascending : ((r.settings.map Setting.name).map id).Pairwise (· < ·) := by
    rw [List.map_id]
    exact ascending_settings reached
  have ascending' : (r.names.map id).Pairwise (· < ·) := by
    rw [List.map_id]
    exact listed.ascending
  refine eq_of_strictlyAscending ascending ascending' fun name => ?_
  rw [names, listed.bound, NameTable.contains_iff, List.mem_map]
  constructor
  · rintro ⟨s, member, rfl⟩
    exact ⟨s, (mem_settings_iff reached).mp member⟩
  · rintro ⟨s, found⟩
    obtain rfl := name_of_reached reached found
    exact ⟨s, (mem_settings_iff reached).mpr found, rfl⟩

theorem orderHidden_of_reachedAnyhow (anyhow : ReachedAnyhow u) : u.OrderHidden := by
  obtain ⟨r, reached, same⟩ := reached_of_reachedAnyhow anyhow
  have visited (w : Settings) (moved : u.Reordered w) : w.byName = u.byName :=
    (byName_reordered reached (same.trans moved)).trans (byName_reordered reached same).symm
  have settings : u.settings = r.settings :=
    congrArg (List.map Prod.snd) (byName_reordered reached same)
  refine ⟨u.table.lists_names, ?_, ?_, ?_, ?_⟩
  · rw [settings, map_name_settings reached]
    exact (NameTable.Reordered.names same).symm
  · intro w listed moved sorts
    refine sorts.eq_of_perm u.sorts_settings (List.Perm.map _ moved).symm ?_
    rw [← (u.sorts_settings.perm.map Setting.name).nodup_iff, settings]
    exact nodup_names reached
  · intro w moved σ _ p scope
    rw [Push.batch_eq, Push.batch_eq, Settings.settings, visited w moved]
    rfl
  · intro w moved σ _ η scope handler notes
    exact endsAlike_pull moved (visited w moved) scope handler notes

end Settings

/-! ## 3. What a catalogue shows -/

namespace Catalogue

/-- The catalogues hold the same entries under the same names. -/
def Reordered (c d : Catalogue) : Prop := c.table.Reordered d.table

/-- The catalogue shows nothing of the order in which its entries are found: neither in the names that
it lists, nor in the lines, which are those of these names one by one, nor in what it does to a scope
or to a catalogue that it overwrites. -/
structure OrderHidden (c : Catalogue) : Prop where
  names : c.table.Lists c.names
  lines_names : c.lines = c.names.filterMap fun name => (c.get? name).map fun v => v.describe name
  lines : ∀ d : Catalogue, c.Reordered d → d.lines = c.lines
  bound : ∀ d : Catalogue, c.Reordered d →
    ∀ {σ : Type} [BuiltinScope σ] (scope : σ), d.bindAll scope = c.bindAll scope
  overwriting : ∀ b d : Catalogue, c.Reordered d → (b.overwrite c).Reordered (b.overwrite d)

theorem orderHidden (c : Catalogue) : c.OrderHidden where
  names := c.table.lists_names
  lines_names := by
    rw [lines, NameTable.sorted_eq, List.map_filterMap]
    simp only [Option.map_map]
    rfl
  lines d same := by rw [lines, lines, NameTable.Reordered.sorted same]
  bound d same σ _ scope := by rw [bindAll, bindAll, NameTable.Reordered.sorted same]
  overwriting b d same := NameTable.Reordered.overwrite (.refl _) same

end Catalogue

/-! ## 4. All together -/

/-- Registries hide the order of their tables:
* registries that are reached in any way, even if the settings are found in another order after every
  operation, and all catalogues show nothing of it;
* nor do engines in the names of their builtins and of their variables;
* a catalogue that is overwritten by another one has the entries of that one under all its names and
  its own under all others, so overwriting it by two others in turn is overwriting it by the first
  of them overwritten by the second. -/
theorem order_hidden :
    (∀ r : Settings, r.ReachedAnyhow → r.OrderHidden) ∧
    (∀ c : Catalogue, c.OrderHidden) ∧
    (∀ {ε : Type} (e : Engine ε),
      e.builtins.Lists e.builtinNames ∧ e.vars.table.Lists e.variableNames) ∧
    (∀ (b c : Catalogue) (name : String),
      (b.overwrite c).get? name = (c.get? name).or (b.get? name)) ∧
    ∀ a b c : Catalogue, ((a.overwrite b).overwrite c).Reordered (a.overwrite (b.overwrite c)) :=
  ⟨fun _ => Settings.orderHidden_of_reachedAnyhow, Catalogue.orderHidden,
    fun e => ⟨e.builtins.lists_names, e.vars.table.lists_names⟩,
    fun b c => NameTable.get?_overwrite b.table c.table,
    fun a b c => NameTable.overwrite_assoc a.table b.table c.table⟩

namespace Settings

/-- The same registry, with its settings found in the opposite order. -/
def turned (r : Settings) : Settings :=
  ⟨⟨r.table.entries.reverse,
    (((List.reverse_perm _).map Prod.fst).nodup_iff).mpr r.table.distinct⟩⟩

/-- Two settings, registered in another order than that of their names. -/
def arrived : Settings :=
  Op.apply (.addInferred "host" (.string "localhost") .write "")
    (Op.apply (.addInferred "verbose" (.bool true) .write "") .empty)

theorem turned_hidden :
    arrived.ReachedAnyhow ∧ arrived.Reordered arrived.turned ∧
    arrived.table.entries.map Prod.fst = ["verbose", "host"] ∧
    arrived.turned.table.entries.map Prod.fst = ["host", "verbose"] ∧
    arrived.turned.settings.map Setting.name = arrived.turned.names ∧
    arrived.turned.settings = arrived.settings ∧
    ∀ vars : Variables, Push.impose.batch arrived.turned vars = Push.impose.batch arrived vars := by
  have reached : arrived.ReachedAnyhow := .apply _ (.apply _ .empty)
  have moved : arrived.Reordered arrived.turned := (List.reverse_perm _).symm
  have registries := order_hidden.1
  have hidden := registries arrived reached
  refine ⟨reached, moved, rfl, rfl, ?_, ?_, fun vars => hidden.pushed _ moved .impose vars⟩
  · exact (registries _ (.rearrange reached moved)).settings_names
  · exact hidden.settings _ _ moved (sorts_settings _)

end Settings

end ScriptBridge
