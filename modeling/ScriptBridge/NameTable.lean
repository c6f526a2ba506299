/-!
# Tables of named entries

A `NameTable` binds each of its names to one entry. Entries keep the order in which their names
arrived, but nothing that is listed shows it: `names` and `sorted` answer in ascending order of
code points.

* `get?_insert`, `get?_erase`: what a look-up answers after a change.
* `contains_iff`, `contains_insert`: a name is bound when a look-up finds it.
* `insert_of_get?`: a table does not change when a name is bound to the entry that it has.
* `size_insert`: a new name makes the table larger by one.
* `perm_sortBy`: sorting keeps every item.
-/

namespace ScriptBridge

/-! ## Sorting by name -/

/-- Puts an item before the first one whose name is not smaller. -/
def insertBy {α : Type} (name : α → String) (item : α) : List α → List α
  | [] => [item]
  | head :: rest =>
    if name item ≤ name head then item :: head :: rest else head :: insertBy name item rest

/-- Items in ascending order of their names. -/
def sortBy {α : Type} (name : α → String) : List α → List α
  | [] => []
  | item :: rest => insertBy name item (sortBy name rest)

theorem perm_insertBy {α : Type} (name : α → String) (item : α) (items : List α) :
    (insertBy name item items).Perm (item :: items) := by
  induction items with
  | nil => exact .refl _
  | cons head rest ih =>
    unfold insertBy
    split
    · exact .refl _
    · exact (ih.cons head).trans (.swap item head rest)

theorem perm_sortBy {α : Type} (name : α → String) (items : List α) :
    (sortBy name items).Perm items := by
  induction items with
  | nil => exact .refl _
  | cons item rest ih => exact (perm_insertBy name item _).trans (ih.cons item)

/-! ## Entries -/

namespace Entries

variable {α : Type}

/-- The entry of a name. -/
def find? (name : String) : List (String × α) → Option α
  | [] => none
  | (n, entry) :: rest => if n = name then some entry else find? name rest

/-- Replaces the entry of a name where it stands, or appends it. -/
def put (name : String) (entry : α) : List (String × α) → List (String × α)
  | [] => [(name, entry)]
  | (n, old) :: rest => if n = name then (n, entry) :: rest else (n, old) :: put name entry rest

/-- Leaves out the entry of a name. -/
def drop (name : String) : List (String × α) → List (String × α)
  | [] => []
  | (n, old) :: rest => if n = name then drop name rest else (n, old) :: drop name rest

theorem find?_put (name other : String) (entry : α) (entries : List (String × α)) :
    find? other (put name entry entries) =
      if name = other then some entry else find? other entries := by
  induction entries with
  | nil => simp [put, find?]
  | cons head rest ih =>
    obtain ⟨n, old⟩ := head
    by_cases h : n = name
    · subst h
      by_cases ho : n = other <;> simp [put, find?, ho]
    · rw [put, if_neg h, find?, find?, ih]
      by_cases ho : n = other
      · subst ho
        simp [Ne.symm h]
      · simp [ho]

theorem find?_drop (name other : String) (entries : List (String × α)) :
    find? other (drop name entries) = if name = other then none else find? other entries := by
  induction entries with
  | nil => simp [drop, find?]
  | cons head rest ih =>
    obtain ⟨n, old⟩ := head
    by_cases h : n = name
    · subst h
      rw [drop, if_pos rfl, ih, find?]
      by_cases ho : n = other <;> simp [ho]
    · rw [drop, if_neg h, find?, find?, ih]
      by_cases ho : n = other
      · subst ho
        simp [Ne.symm h]
      · simp [ho]

theorem mem_names_put {name other : String} {entry : α} {entries : List (String × α)} :
    other ∈ (put name entry entries).map Prod.fst ↔
      other = name ∨ other ∈ entries.map Prod.fst := by
  induction entries with
  | nil => simp [put]
  | cons head rest ih =>
    obtain ⟨n, old⟩ := head
    by_cases h : n = name
    · subst h
      simp [put]
    · simp only [put, h, if_false, List.map_cons, List.mem_cons, ih]
      constructor
      · rintro (h | h | h) <;> simp [h]
      · rintro (h | h | h) <;> simp [h]

theorem mem_of_mem_names_drop {name other : String} {entries : List (String × α)}
    (h : other ∈ (drop name entries).map Prod.fst) : other ∈ entries.map Prod.fst := by
  induction entries with
  | nil => simp [drop] at h
  | cons head rest ih =>
    obtain ⟨n, old⟩ := head
    by_cases hn : n = name
    · simp only [drop, hn, if_true] at h
      exact List.mem_cons_of_mem _ (ih h)
    · simp only [drop, hn, if_false, List.map_cons, List.mem_cons] at h
      rcases h with h | h
      · simp [h]
      · exact List.mem_cons_of_mem _ (ih h)

theorem length_put {name : String} {entry : α} {entries : List (String × α)}
    (fresh : find? name entries = none) : (put name entry entries).length = entries.length + 1 := by
  induction entries with
  | nil => rfl
  | cons head rest ih =>
    obtain ⟨n, old⟩ := head
    by_cases h : n = name
    · simp [find?, h] at fresh
    · rw [find?, if_neg h] at fresh
      rw [put, if_neg h, List.length_cons, ih fresh, List.length_cons]

/-- Nothing changes where the name has the entry already. -/
theorem put_of_find? {name : String} {entry : α} {entries : List (String × α)}
    (found : find? name entries = some entry) : put name entry entries = entries := by
  induction entries with
  | nil => cases found
  | cons head rest ih =>
    obtain ⟨n, old⟩ := head
    by_cases h : n = name
    · rw [find?, if_pos h] at found
      rw [put, if_pos h, Option.some.inj found]
    · rw [find?, if_neg h] at found
      rw [put, if_neg h, ih found]

theorem nodup_put {name : String} {entry : α} {entries : List (String × α)}
    (h : (entries.map Prod.fst).Nodup) : ((put name entry entries).map Prod.fst).Nodup := by
  induction entries with
  | nil => simp [put]
  | cons head rest ih =>
    obtain ⟨n, old⟩ := head
    rw [List.map_cons, List.nodup_cons] at h
    by_cases hn : n = name
    · subst hn
      rw [put, if_pos rfl, List.map_cons, List.nodup_cons]
      exact h
    · simp only [put, hn, if_false, List.map_cons, List.nodup_cons]
      refine ⟨fun hm => ?_, ih h.2⟩
      rcases mem_names_put.mp hm with e | hm
      · exact hn e
      · exact h.1 hm

theorem nodup_drop {name : String} {entries : List (String × α)}
    (h : (entries.map Prod.fst).Nodup) : ((drop name entries).map Prod.fst).Nodup := by
  induction entries with
  | nil => simp [drop]
  | cons head rest ih =>
    obtain ⟨n, old⟩ := head
    rw [List.map_cons, List.nodup_cons] at h
    by_cases hn : n = name
    · rw [drop, if_pos hn]
      exact ih h.2
    · simp only [drop, hn, if_false, List.map_cons, List.nodup_cons]
      exact ⟨fun hm => h.1 (mem_of_mem_names_drop hm), ih h.2⟩

end Entries

/-! ## Tables -/

/-- A finite map from names to entries of type `α`. -/
structure NameTable (α : Type) where
  /-- The entries, in the order in which their names arrived. -/
  entries : List (String × α)
  /-- No name is bound twice. -/
  distinct : (entries.map Prod.fst).Nodup

namespace NameTable

variable {α : Type}

/-- The table without entries. -/
def empty : NameTable α := ⟨[], List.nodup_nil⟩

instance : Inhabited (NameTable α) := ⟨empty⟩

/-- The entry bound to a name. -/
def get? (t : NameTable α) (name : String) : Option α := Entries.find? name t.entries

/-- Whether a name is bound. -/
def contains (t : NameTable α) (name : String) : Bool := (t.get? name).isSome

/-- Binds a name, replacing the entry it had. -/
def insert (t : NameTable α) (name : String) (entry : α) : NameTable α :=
  ⟨Entries.put name entry t.entries, Entries.nodup_put t.distinct⟩

/-- Unbinds a name. -/
def erase (t : NameTable α) (name : String) : NameTable α :=
  ⟨Entries.drop name t.entries, Entries.nodup_drop t.distinct⟩

/-- The number of bound names. -/
def size (t : NameTable α) : Nat := t.entries.length

/-- Whether no name is bound. -/
def isEmpty (t : NameTable α) : Bool := t.entries.isEmpty

/-- The bound names in ascending order. -/
def names (t : NameTable α) : List String := sortBy id (t.entries.map Prod.fst)

/-- The names with their entries, in ascending order of the names. -/
def sorted (t : NameTable α) : List (String × α) := sortBy Prod.fst t.entries

/-- The table that binds each name of a list of pairs to the last entry given for it. -/
def ofList (pairs : List (String × α)) : NameTable α :=
  pairs.foldl (fun t (name, entry) => t.insert name entry) empty

/-- The first table overwritten by every entry of the second. -/
def overwrite (t u : NameTable α) : NameTable α :=
  u.entries.foldl (fun t (name, entry) => t.insert name entry) t

/-! ## What a change does -/

@[simp] theorem get?_empty (name : String) : (empty : NameTable α).get? name = none := rfl

theorem get?_insert (t : NameTable α) (name other : String) (entry : α) :
    (t.insert name entry).get? other = if name = other then some entry else t.get? other :=
  Entries.find?_put name other entry t.entries

@[simp] theorem get?_insert_self (t : NameTable α) (name : String) (entry : α) :
    (t.insert name entry).get? name = some entry := by simp [get?_insert]

theorem get?_insert_of_ne (t : NameTable α) {name other : String} (entry : α) (h : name ≠ other) :
    (t.insert name entry).get? other = t.get? other := by simp [get?_insert, h]

theorem insert_of_get? {t : NameTable α} {name : String} {entry : α}
    (found : t.get? name = some entry) : t.insert name entry = t := by
  simp only [insert, Entries.put_of_find? found]

theorem get?_erase (t : NameTable α) (name other : String) :
    (t.erase name).get? other = if name = other then none else t.get? other :=
  Entries.find?_drop name other t.entries

theorem contains_iff (t : NameTable α) (name : String) :
    t.contains name = true ↔ ∃ entry, t.get? name = some entry := Option.isSome_iff_exists

theorem size_insert {t : NameTable α} {name : String} (fresh : t.contains name = false)
    (entry : α) : (t.insert name entry).size = t.size + 1 :=
  Entries.length_put (Option.isNone_iff_eq_none.mp (Option.isSome_eq_false_iff.mp fresh))

theorem contains_insert (t : NameTable α) (name other : String) (entry : α) :
    (t.insert name entry).contains other = (decide (name = other) || t.contains other) := by
  by_cases h : name = other <;> simp [contains, get?_insert, h]

end NameTable

end ScriptBridge
