/-!
# Maps with sorted keys

A map from names to values is the list of its entries with the names strictly increasing, in the
order of code points, which is also the order of the bytes of their UTF-8 forms. The order is part
of the type, so two maps with the same look-ups are the same map.
-/
namespace RowRecipe

/-- Puts a value at a name, replacing the one there, in entries sorted by name. -/
def insertEntry {α : Type} (name : String) (value : α) : List (String × α) → List (String × α)
  | [] => [(name, value)]
  | (first, old) :: rest =>
    if name < first then (name, value) :: (first, old) :: rest
    else if name = first then (name, value) :: rest
    else (first, old) :: insertEntry name value rest

def removeEntry {α : Type} (name : String) (entries : List (String × α)) : List (String × α) :=
  entries.filter (fun entry => entry.1 ≠ name)

/-- The value of the first entry with a name. -/
def lookupEntry {α : Type} (name : String) : List (String × α) → Option α
  | [] => none
  | (first, value) :: rest => if first = name then some value else lookupEntry name rest

theorem mem_insertEntry {α : Type} {name : String} {value : α} {entries : List (String × α)}
    {entry : String × α} (h : entry ∈ insertEntry name value entries) :
    entry.1 = name ∨ entry ∈ entries := by
  induction entries with
  | nil => simp_all [insertEntry]
  | cons head rest ih =>
    obtain ⟨first, old⟩ := head
    simp only [insertEntry] at h
    split at h
    · rcases List.mem_cons.mp h with rfl | h
      · exact .inl rfl
      · exact .inr h
    · split at h
      · rcases List.mem_cons.mp h with rfl | h
        · exact .inl rfl
        · exact .inr (List.mem_cons_of_mem _ h)
      · rcases List.mem_cons.mp h with rfl | h
        · exact .inr (List.mem_cons_self ..)
        · exact (ih h).imp id (List.mem_cons_of_mem _)

theorem pairwise_insertEntry {α : Type} (name : String) (value : α)
    {entries : List (String × α)} (h : entries.Pairwise (fun a b => a.1 < b.1)) :
    (insertEntry name value entries).Pairwise (fun a b => a.1 < b.1) := by
  induction entries with
  | nil => simp [insertEntry]
  | cons head rest ih =>
    obtain ⟨first, old⟩ := head
    obtain ⟨hfirst, hrest⟩ := List.pairwise_cons.mp h
    simp only [insertEntry]
    split
    · rename_i hlt
      refine List.pairwise_cons.mpr ⟨?_, h⟩
      intro entry hentry
      rcases List.mem_cons.mp hentry with rfl | hentry
      · exact hlt
      · exact String.lt_trans hlt (hfirst entry hentry)
    · rename_i hlt
      split
      · rename_i heq
        subst heq
        exact List.pairwise_cons.mpr ⟨hfirst, hrest⟩
      · rename_i hne
        refine List.pairwise_cons.mpr ⟨?_, ih hrest⟩
        intro entry hentry
        rcases mem_insertEntry hentry with hname | hentry
        · rw [hname]
          rcases String.le_total name first with hle | hle
          · exact absurd (String.le_antisymm hle (String.not_lt.mp hlt)) hne
          · exact Classical.byContradiction fun hnot =>
              hne (String.le_antisymm (String.not_lt.mp hnot) hle)
        · exact hfirst entry hentry

theorem lookupEntry_insertEntry {α : Type} (name other : String) (value : α)
    (entries : List (String × α)) :
    lookupEntry other (insertEntry name value entries) =
      if name = other then some value else lookupEntry other entries := by
  induction entries with
  | nil => rfl
  | cons head rest ih =>
    obtain ⟨first, old⟩ := head
    simp only [insertEntry]
    split
    · rfl
    · split
      · rename_i heq
        subst heq
        simp only [lookupEntry]
        split <;> rfl
      · rename_i hne
        simp only [lookupEntry, ih]
        split
        · rename_i hfirst
          subst hfirst
          rw [if_neg hne]
        · rfl

/-- Of two values for a name, the second stays. -/
theorem insertEntry_insertEntry {α : Type} (name : String) (old value : α)
    (entries : List (String × α)) :
    insertEntry name value (insertEntry name old entries) = insertEntry name value entries := by
  have hself : ∀ rest, insertEntry name value ((name, old) :: rest) = (name, value) :: rest := by
    intro rest
    rw [insertEntry, if_neg (String.lt_irrefl name), if_pos rfl]
  induction entries with
  | nil => exact hself []
  | cons head rest ih =>
    obtain ⟨first, there⟩ := head
    simp only [insertEntry]
    split
    · exact hself _
    · next hlt =>
      split
      · exact hself _
      · next hne => rw [insertEntry, if_neg hlt, if_neg hne, ih]

/-- A name behind all others comes last. -/
theorem insertEntry_of_forall_lt {α : Type} {name : String} {entries : List (String × α)}
    (h : ∀ entry ∈ entries, entry.1 < name) (value : α) :
    insertEntry name value entries = entries ++ [(name, value)] := by
  induction entries with
  | nil => rfl
  | cons head rest ih =>
    obtain ⟨first, old⟩ := head
    obtain ⟨hfirst, hrest⟩ := List.forall_mem_cons.mp h
    have hle : ¬name < first := String.lt_asymm hfirst
    have hne : name ≠ first := by
      rintro rfl
      exact String.lt_irrefl _ hfirst
    rw [insertEntry, if_neg hle, if_neg hne, ih hrest, List.cons_append]

theorem mem_of_lookupEntry {α : Type} {name : String} {value : α} {entries : List (String × α)}
    (h : lookupEntry name entries = some value) : (name, value) ∈ entries := by
  induction entries with
  | nil => cases h
  | cons head rest ih =>
    obtain ⟨first, old⟩ := head
    rw [lookupEntry] at h
    split at h
    · next hname =>
      subst hname
      obtain rfl := Option.some.inj h
      exact List.mem_cons_self
    · exact List.mem_cons_of_mem _ (ih h)

/-- Where no name comes twice, every entry is found. -/
theorem lookupEntry_eq_some_iff {α : Type} {entries : List (String × α)}
    (hdiffer : (entries.map Prod.fst).Nodup) {name : String} {value : α} :
    lookupEntry name entries = some value ↔ (name, value) ∈ entries := by
  constructor
  · exact mem_of_lookupEntry
  · intro hmem
    induction entries with
    | nil => cases hmem
    | cons head rest ih =>
      have hfirst : head.1 ∉ rest.map Prod.fst := (List.nodup_cons.mp hdiffer).1
      have hrest : (rest.map Prod.fst).Nodup := (List.nodup_cons.mp hdiffer).2
      rw [lookupEntry]
      cases List.mem_cons.mp hmem with
      | inl heq =>
        subst heq
        exact if_pos rfl
      | inr hmem =>
        have hne : head.1 ≠ name := by
          intro heq
          exact hfirst (heq ▸ List.mem_map_of_mem hmem)
        rw [if_neg hne]
        exact ih hrest hmem

theorem nodup_of_sorted {α : Type} {entries : List (String × α)}
    (hsorted : entries.Pairwise (fun a b => a.1 < b.1)) : (entries.map Prod.fst).Nodup := by
  apply List.pairwise_map.mpr
  apply hsorted.imp
  intro a b hlt heq
  exact String.lt_irrefl b.1 (heq ▸ hlt)

/-- A map from names to values, its entries sorted by name. -/
structure SortedMap (α : Type) where
  /-- The entries, in the order of their names. -/
  entries : List (String × α)
  sorted : entries.Pairwise (fun a b => a.1 < b.1)
  deriving DecidableEq

namespace SortedMap

variable {α β : Type}

def empty : SortedMap α :=
  ⟨[], List.Pairwise.nil⟩

instance : Inhabited (SortedMap α) := ⟨empty⟩

/-- Puts a value at a name, replacing the one there. -/
def insert (map : SortedMap α) (name : String) (value : α) : SortedMap α :=
  ⟨insertEntry name value map.entries, pairwise_insertEntry name value map.sorted⟩

def erase (map : SortedMap α) (name : String) : SortedMap α :=
  ⟨removeEntry name map.entries, map.sorted.filter _⟩

def get? (map : SortedMap α) (name : String) : Option α :=
  lookupEntry name map.entries

def contains (map : SortedMap α) (name : String) : Bool :=
  (map.get? name).isSome

def names (map : SortedMap α) : List String :=
  map.entries.map Prod.fst

def size (map : SortedMap α) : Nat :=
  map.entries.length

/-- The map of some entries, the last with a name winning. -/
def ofList (entries : List (String × α)) : SortedMap α :=
  entries.foldl (fun map entry => map.insert entry.1 entry.2) empty

/-- The map of some entries, the first with a name winning. -/
def ofFirsts : List (String × α) → SortedMap α
  | [] => empty
  | (name, value) :: entries => (ofFirsts entries).insert name value

/-- Puts all entries of the second map into the first. -/
def union (map other : SortedMap α) : SortedMap α :=
  other.entries.foldl (fun map entry => map.insert entry.1 entry.2) map

@[simp] theorem get?_empty (name : String) : (empty : SortedMap α).get? name = none := rfl

@[simp] theorem get?_insert (map : SortedMap α) (name other : String) (value : α) :
    (map.insert name value).get? other = if name = other then some value else map.get? other :=
  lookupEntry_insertEntry name other value map.entries

theorem contains_insert (map : SortedMap α) (name other : String) (value : α) :
    (map.insert name value).contains other ↔ name = other ∨ map.contains other := by
  by_cases h : name = other <;> simp [contains, h]

theorem get?_foldl_insert (entries : List (String × α)) (map : SortedMap α) (name : String) :
    (entries.foldl (fun map entry => map.insert entry.1 entry.2) map).get? name =
      ((ofList entries).get? name).or (map.get? name) := by
  rw [ofList]
  induction entries generalizing map with
  | nil => rfl
  | cons entry entries ih =>
    rw [List.foldl_cons, List.foldl_cons, ih, ih (empty.insert entry.1 entry.2), get?_insert,
      get?_insert]
    split <;> simp

@[simp] theorem get?_ofList_nil (name : String) :
    (ofList ([] : List (String × α))).get? name = none := by
  rw [ofList, List.foldl_nil, get?_empty]

/-- Of the entries with a name, the last is found. -/
theorem get?_ofList_cons (entry : String × α) (entries : List (String × α)) (name : String) :
    (ofList (entry :: entries)).get? name =
      ((ofList entries).get? name).or (if entry.1 = name then some entry.2 else none) := by
  rw [ofList, List.foldl_cons, get?_foldl_insert, get?_insert, get?_empty]

theorem entries_foldl_insert {map : SortedMap α} {entries : List (String × α)}
    (hsorted : (map.entries ++ entries).Pairwise (fun a b => a.1 < b.1)) :
    (entries.foldl (fun map entry => map.insert entry.1 entry.2) map).entries =
      map.entries ++ entries := by
  induction entries generalizing map with
  | nil => simp
  | cons entry entries ih =>
    obtain ⟨-, -, hlt⟩ := List.pairwise_append.mp hsorted
    have hlast : (map.insert entry.1 entry.2).entries = map.entries ++ [entry] :=
      insertEntry_of_forall_lt (fun old hold => hlt old hold entry List.mem_cons_self) _
    have hassoc :
        map.entries ++ entry :: entries = (map.insert entry.1 entry.2).entries ++ entries := by
      rw [hlast, List.append_assoc, List.singleton_append]
    rw [hassoc] at hsorted ⊢
    rw [List.foldl_cons, ih hsorted]

/-- Entries that are sorted are those of their map. -/
theorem entries_ofList {entries : List (String × α)}
    (hsorted : entries.Pairwise (fun a b => a.1 < b.1)) : (ofList entries).entries = entries :=
  entries_foldl_insert hsorted

theorem ext {map other : SortedMap α} (h : map.entries = other.entries) : map = other := by
  cases map
  cases other
  cases h
  rfl

theorem ofList_entries (map : SortedMap α) : ofList map.entries = map :=
  ext (entries_ofList map.sorted)

@[simp] theorem insert_insert (map : SortedMap α) (name : String) (old value : α) :
    (map.insert name old).insert name value = map.insert name value :=
  ext (insertEntry_insertEntry name old value map.entries)

theorem get?_eq_some_iff (map : SortedMap α) {name : String} {value : α} :
    map.get? name = some value ↔ (name, value) ∈ map.entries :=
  lookupEntry_eq_some_iff (nodup_of_sorted map.sorted)

theorem get?_union (map other : SortedMap α) (name : String) :
    (map.union other).get? name = (other.get? name).or (map.get? name) := by
  rw [union, get?_foldl_insert, ofList_entries]

theorem mem_of_get?_ofList {entries : List (String × α)} {name : String} {value : α}
    (h : (ofList entries).get? name = some value) : (name, value) ∈ entries := by
  induction entries with
  | nil => cases h
  | cons entry entries ih =>
    rw [get?_ofList_cons, Option.or_eq_some_iff] at h
    rcases h with h | ⟨-, h⟩
    · exact List.mem_cons_of_mem _ (ih h)
    · split at h
      · next hname =>
        subst hname
        obtain rfl := Option.some.inj h
        exact List.mem_cons_self
      · cases h

end SortedMap

end RowRecipe
