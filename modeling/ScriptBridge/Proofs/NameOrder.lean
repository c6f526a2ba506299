import ScriptBridge.NameTable

/-!
# The order of names

Whatever is listed from a table comes in ascending order of names. When no name occurs twice the
order is strict, and it says which items stand in front of a given one.

Results:
1. `ascending_sortBy`, `strictlyAscending_sortBy`: the order of a sorted list;
   `eq_of_strictlyAscending`: it leaves only one list of the same items.
2. `mem_before_iff`: in front of an item stand exactly those of smaller names.
3. `get?_eq_some_iff`, `mem_names_iff`: what a table answers is what its entries hold, and the names
   it lists are those it answers.
-/

namespace ScriptBridge

variable {α : Type}

/-! ## 1. Sorted lists -/

theorem mem_insertBy {name : α → String} {item other : α} {items : List α} :
    other ∈ insertBy name item items ↔ other = item ∨ other ∈ items := by
  rw [(perm_insertBy name item items).mem_iff, List.mem_cons]

theorem mem_sortBy {name : α → String} {item : α} {items : List α} :
    item ∈ sortBy name items ↔ item ∈ items :=
  (perm_sortBy name items).mem_iff

theorem ascending_insertBy {name : α → String} (item : α) {items : List α}
    (ascending : items.Pairwise fun a b => name a ≤ name b) :
    (insertBy name item items).Pairwise fun a b => name a ≤ name b := by
  induction items with
  | nil => exact List.pairwise_singleton _ _
  | cons head rest ih =>
    obtain ⟨least, tail⟩ := List.pairwise_cons.mp ascending
    unfold insertBy
    split
    · next first =>
      refine List.pairwise_cons.mpr ⟨?_, ascending⟩
      intro other member
      rcases List.mem_cons.mp member with rfl | member
      · exact first
      · exact String.le_trans first (least other member)
    · next later =>
      refine List.pairwise_cons.mpr ⟨?_, ih tail⟩
      intro other member
      rcases mem_insertBy.mp member with rfl | member
      · exact (String.le_total (name other) (name head)).resolve_left later
      · exact least other member

theorem ascending_sortBy (name : α → String) (items : List α) :
    (sortBy name items).Pairwise fun a b => name a ≤ name b := by
  induction items with
  | nil => exact .nil
  | cons item rest ih => exact ascending_insertBy item ih

/-- Items with different names are sorted in strictly ascending order. -/
theorem strictlyAscending_sortBy {name : α → String} {items : List α}
    (distinct : (items.map name).Nodup) :
    ((sortBy name items).map name).Pairwise (· < ·) := by
  have ascending : ((sortBy name items).map name).Pairwise (· ≤ ·) :=
    List.pairwise_map.mpr (ascending_sortBy name items)
  have different : ((sortBy name items).map name).Nodup :=
    ((perm_sortBy name items).map name).nodup_iff.mpr distinct
  refine (ascending.and different).imp ?_
  rintro a b ⟨le, ne⟩
  exact String.not_le.mp fun ge => ne (String.le_antisymm le ge)

/-- A list in strictly ascending order is known by its items. -/
theorem eq_of_strictlyAscending {name : α → String} {items others : List α}
    (ascending : (items.map name).Pairwise (· < ·))
    (ascending' : (others.map name).Pairwise (· < ·))
    (same : ∀ item, item ∈ items ↔ item ∈ others) : items = others := by
  have order := List.pairwise_map.mp ascending
  have order' := List.pairwise_map.mp ascending'
  have different {a b : α} (less : name a < name b) : a ≠ b := fun eq =>
    String.lt_irrefl (name b) (eq ▸ less)
  have perm : items.Perm others :=
    (List.perm_ext_iff_of_nodup (order.imp different) (order'.imp different)).mpr same
  refine perm.eq_of_pairwise (fun a b _ _ less more => ?_) order order'
  exact absurd (String.lt_trans less more) (String.lt_irrefl (name a))

/-! ## 2. Cutting a sorted list -/

theorem nodup_of_strictlyAscending {names : List String} (ascending : names.Pairwise (· < ·)) :
    names.Nodup := by
  refine ascending.imp ?_
  rintro a b less rfl
  exact String.lt_irrefl a less

/-- In front of an item stand exactly those items of the list that have smaller names. -/
theorem mem_before_iff {name : α → String} {before later : List α} {item other : α}
    (ascending : ((before ++ item :: later).map name).Pairwise (· < ·)) :
    other ∈ before ↔ other ∈ before ++ item :: later ∧ name other < name item := by
  obtain ⟨_, behind, across⟩ := List.pairwise_append.mp (List.pairwise_map.mp ascending)
  obtain ⟨greater, _⟩ := List.pairwise_cons.mp behind
  constructor
  · intro member
    exact ⟨List.mem_append_left _ member, across other member item List.mem_cons_self⟩
  · rintro ⟨member, less⟩
    rcases List.mem_append.mp member with front | back
    · exact front
    · rcases List.mem_cons.mp back with rfl | back
      · exact absurd less (String.lt_irrefl (name other))
      · have greater := greater other back
        exact absurd (String.lt_trans less greater) (String.lt_irrefl (name other))

/-! ## 3. Entries -/

theorem Entries.find?_eq_some_iff {name : String} {entry : α} {entries : List (String × α)}
    (distinct : (entries.map Prod.fst).Nodup) :
    Entries.find? name entries = some entry ↔ (name, entry) ∈ entries := by
  induction entries with
  | nil => simp [Entries.find?]
  | cons head rest ih =>
    obtain ⟨n, first⟩ := head
    obtain ⟨fresh, distinct⟩ := List.nodup_cons.mp distinct
    rw [Entries.find?, List.mem_cons]
    by_cases same : n = name
    · subst same
      have absent : (n, entry) ∉ rest := fun member => fresh (List.mem_map.mpr ⟨_, member, rfl⟩)
      simp [absent, eq_comm]
    · simp [same, Ne.symm same, ih distinct]

theorem NameTable.get?_eq_some_iff {t : NameTable α} {name : String} {entry : α} :
    t.get? name = some entry ↔ (name, entry) ∈ t.entries :=
  Entries.find?_eq_some_iff t.distinct

theorem NameTable.mem_names_iff {t : NameTable α} {name : String} :
    name ∈ t.names ↔ ∃ entry, t.get? name = some entry := by
  simp [names, mem_sortBy, get?_eq_some_iff]

end ScriptBridge
