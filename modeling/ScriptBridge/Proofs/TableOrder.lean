import Mathlib.Data.List.Nodup
import ScriptBridge.Proofs.NameOrder

/-!
# The order of entries

A table holds its entries in some order, and one that holds the same entries in another order
(`NameTable.Reordered`) answers every look-up alike. What is listed is sorted by names first. A sort
may place items of one name as it likes (`Sorts`), but no name is bound twice, so a list shows
nothing of the order in which the entries were found.

Results:
1. `Sorts.eq_of_perm`: items of different names are sorted in one way only.
2. `reordered_iff`: tables that answer every look-up alike are reorderings of each other.
3. `lists_names`: what the names listed from a table are, in whatever order it is read;
   `sorted_eq`: the entries are listed by looking these names up.
4. `get?_overwrite`: what overwriting does, from which its laws follow.
-/

namespace ScriptBridge

variable {α : Type}

/-! ## 1. Sorting in any way -/

/-- `listed` holds some items in ascending order of names. Items of one name stand in any order. -/
structure Sorts (name : α → String) (items listed : List α) : Prop where
  perm : listed.Perm items
  ascending : listed.Pairwise fun a b => name a ≤ name b

section Sorting

variable {name : α → String} {items others listed listed' : List α}

theorem sorts_sortBy (name : α → String) (items : List α) : Sorts name items (sortBy name items) :=
  ⟨perm_sortBy name items, ascending_sortBy name items⟩

theorem Sorts.eq_of_perm (sorts : Sorts name items listed) (sorts' : Sorts name others listed')
    (perm : items.Perm others) (distinct : (others.map name).Nodup) : listed = listed' := by
  have all : listed.Perm others := sorts.perm.trans perm
  refine (all.trans sorts'.perm.symm).eq_of_pairwise ?_ sorts.ascending sorts'.ascending
  intro a b left right le ge
  have same : name a = name b := String.le_antisymm le ge
  exact List.inj_on_of_nodup_map distinct (all.subset left) (sorts'.perm.subset right) same

end Sorting

namespace NameTable

/-! ## 2. Tables of the same entries -/

/-- The tables hold the same entries, each in an order of its own. -/
def Reordered (t u : NameTable α) : Prop := t.entries.Perm u.entries

variable {t u v : NameTable α}

theorem nodup_entries (t : NameTable α) : t.entries.Nodup := List.Nodup.of_map _ t.distinct

theorem reordered_iff : t.Reordered u ↔ ∀ name, t.get? name = u.get? name := by
  rw [Reordered, List.perm_ext_iff_of_nodup t.nodup_entries u.nodup_entries]
  constructor
  · intro same name
    refine Option.ext fun entry => ?_
    rw [get?_eq_some_iff, get?_eq_some_iff]
    exact same (name, entry)
  · rintro same ⟨name, entry⟩
    rw [← get?_eq_some_iff, ← get?_eq_some_iff, same]

theorem Reordered.get? (same : t.Reordered u) (name : String) : u.get? name = t.get? name :=
  (reordered_iff.mp same name).symm

theorem Reordered.insert (same : t.Reordered u) (name : String) (entry : α) :
    (t.insert name entry).Reordered (u.insert name entry) := by
  refine reordered_iff.mpr fun other => ?_
  rw [get?_insert, get?_insert, same.get?]

/-! ## 3. Listing -/

theorem distinct_names (t : NameTable α) : ((t.entries.map Prod.fst).map id).Nodup := by
  rw [List.map_id]
  exact t.distinct

/-- `names` are the names of a table, and they are what is listed of it in whatever order its entries
are found, and however these are sorted. -/
structure Lists (t : NameTable α) (names : List String) : Prop where
  ascending : names.Pairwise (· < ·)
  bound : ∀ name, name ∈ names ↔ t.contains name = true
  any_order : ∀ (u : NameTable α) (listed : List String), t.Reordered u →
    Sorts id (u.entries.map Prod.fst) listed → listed = names

theorem lists_names (t : NameTable α) : t.Lists t.names where
  ascending := by
    have ascending := strictlyAscending_sortBy t.distinct_names
    rwa [List.map_id] at ascending
  bound name := by rw [mem_names_iff, contains_iff]
  any_order u listed same sorts :=
    sorts.eq_of_perm (sorts_sortBy id _) (same.map Prod.fst).symm t.distinct_names

theorem Reordered.names (same : t.Reordered u) : u.names = t.names :=
  t.lists_names.any_order u _ same (sorts_sortBy id _)

theorem Reordered.sorted (same : t.Reordered u) : u.sorted = t.sorted :=
  (sorts_sortBy _ _).eq_of_perm (sorts_sortBy _ _) (List.Perm.symm same) t.distinct

theorem map_fst_sorted (t : NameTable α) : t.sorted.map Prod.fst = t.names := by
  refine t.lists_names.any_order t _ (.refl _) ⟨(perm_sortBy Prod.fst t.entries).map Prod.fst, ?_⟩
  exact List.pairwise_map.mpr (ascending_sortBy Prod.fst t.entries)

/-- The names with their entries, by looking every name up. -/
theorem sorted_eq (t : NameTable α) :
    t.sorted = t.names.filterMap fun name => (t.get? name).map fun entry => (name, entry) := by
  rw [← map_fst_sorted, List.filterMap_map]
  refine (List.filterMap_some).symm.trans (List.filterMap_congr ?_)
  rintro ⟨name, entry⟩ member
  have found : t.get? name = some entry := get?_eq_some_iff.mpr (mem_sortBy.mp member)
  simp [found]

/-! ## 4. Overwriting -/

theorem get?_insertAll {entries : List (String × α)} (distinct : (entries.map Prod.fst).Nodup)
    (t : NameTable α) (name : String) :
    (entries.foldl (fun t (name, entry) => t.insert name entry) t).get? name =
      (Entries.find? name entries).or (t.get? name) := by
  induction entries generalizing t with
  | nil => rfl
  | cons head rest ih =>
    obtain ⟨n, entry⟩ := head
    obtain ⟨fresh, distinct⟩ := List.nodup_cons.mp distinct
    rw [List.foldl_cons, ih distinct, get?_insert, Entries.find?]
    by_cases same : n = name
    · subst same
      -- no later entry has the name again
      have absent : Entries.find? n rest = none := by
        refine Option.eq_none_iff_forall_ne_some.mpr fun other found => fresh ?_
        exact List.mem_map.mpr ⟨_, (Entries.find?_eq_some_iff distinct).mp found, rfl⟩
      simp [absent]
    · simp [same]

/-- The second table answers first. -/
theorem get?_overwrite (t u : NameTable α) (name : String) :
    (t.overwrite u).get? name = (u.get? name).or (t.get? name) :=
  get?_insertAll u.distinct t name

theorem Reordered.overwrite {t' u' : NameTable α} (left : t.Reordered t') (right : u.Reordered u') :
    (t.overwrite u).Reordered (t'.overwrite u') := by
  refine reordered_iff.mpr fun name => ?_
  rw [get?_overwrite, get?_overwrite, left.get?, right.get?]

theorem overwrite_assoc (t u v : NameTable α) :
    ((t.overwrite u).overwrite v).Reordered (t.overwrite (u.overwrite v)) := by
  refine reordered_iff.mpr fun name => ?_
  rw [get?_overwrite, get?_overwrite, get?_overwrite, get?_overwrite, Option.or_assoc]

end NameTable

end ScriptBridge
