import RowRecipe.Proofs.SameTokens

/-!
# Looking up and listing

A registry of any depth comes down to a row of leaves, each a list of registrations, in the order of
their priority. Looking a name up goes along the row; listing puts all entries into one index, those
of lower priority first. Both give the last entry of the first leaf that knows the name.

Main statement: `Registry.get?_eq_some_iff_mem_list`.
-/
namespace RowRecipe

theorem registeredLast?_eq_none_iff {name : String} {registered : List Entry} :
    registeredLast? name registered = none ↔ ∀ entry ∈ registered, entry.name ≠ name := by
  induction registered with
  | nil => simp [registeredLast?]
  | cons first rest ih =>
    rw [registeredLast?_cons, Option.or_eq_none_iff, ih, List.forall_mem_cons, and_comm,
      ite_eq_right_iff]
    simp

theorem registeredLast?_eq_some_iff {name : String} {registered : List Entry} {entry : Entry} :
    registeredLast? name registered = some entry ↔
      ∃ earlier later, registered = earlier ++ entry :: later ∧ entry.name = name ∧
        ∀ other ∈ later, other.name ≠ name := by
  constructor
  · intro h
    induction registered with
    | nil => cases h
    | cons first rest ih =>
      rw [registeredLast?_cons, Option.or_eq_some_iff] at h
      rcases h with hfound | ⟨hrest, hfirst⟩
      · obtain ⟨earlier, later, rfl, hlater⟩ := ih hfound
        exact ⟨first :: earlier, later, rfl, hlater⟩
      · obtain ⟨hname, ⟨⟩⟩ := Option.ite_none_right_eq_some.mp hfirst
        exact ⟨[], rest, rfl, hname, registeredLast?_eq_none_iff.mp hrest⟩
  · rintro ⟨earlier, later, rfl, hname, hlater⟩
    induction earlier with
    | nil =>
      rw [List.nil_append, registeredLast?_cons, registeredLast?_eq_none_iff.mpr hlater,
        Option.none_or, if_pos hname]
    | cons first earlier ih => rw [List.cons_append, registeredLast?_cons, ih, Option.some_or]

theorem get?_byName (registered : List Entry) (name : String) :
    (byName registered).get? name = registeredLast? name registered := by
  induction registered with
  | nil => rfl
  | cons first rest ih =>
    rw [byName, List.map_cons, SortedMap.get?_ofList_cons, ← byName, ih, registeredLast?_cons]

namespace Registry

mutual

/-- The lists of registrations in a registry, those of higher priority first. -/
def leaves : Registry → List (List Entry)
  | .entries registered => [registered]
  | .layers registries => leavesOf registries

def leavesOf : List Registry → List (List Entry)
  | [] => []
  | registry :: registries => registry.leaves ++ leavesOf registries

end

/-- An entry is the one registered last with a name in the first leaf that knows the name. -/
def Provides (registry : Registry) (name : String) (entry : Entry) : Prop :=
  ∃ before earlier later after,
    registry.leaves = before ++ (earlier ++ entry :: later) :: after ∧ entry.name = name ∧
      (∀ leaf ∈ before, ∀ other ∈ leaf, other.name ≠ name) ∧ ∀ other ∈ later, other.name ≠ name

mutual

theorem get?_eq_findSome? (name : String) :
    ∀ registry : Registry,
      registry.get? name = registry.leaves.findSome? (registeredLast? name)
  | .entries registered => by
    rw [get?, leaves, List.findSome?_singleton]
  | .layers registries => by
    rw [get?, leaves, firstOf_eq_findSome? name registries]

theorem firstOf_eq_findSome? (name : String) :
    ∀ registries : List Registry,
      firstOf name registries = (leavesOf registries).findSome? (registeredLast? name)
  | [] => rfl
  | registry :: registries => by
    rw [firstOf_cons, leavesOf, List.findSome?_append, get?_eq_findSome? name registry,
      firstOf_eq_findSome? name registries]

end

mutual

theorem get?_index (name : String) :
    ∀ registry : Registry, registry.index.get? name = registry.get? name
  | .entries registered => get?_byName registered name
  | .layers registries => get?_indexOf name registries

theorem get?_indexOf (name : String) :
    ∀ registries : List Registry, (indexOf registries).get? name = firstOf name registries
  | [] => rfl
  | registry :: registries => by
    rw [indexOf, firstOf_cons, SortedMap.get?_union, get?_index name registry,
      get?_indexOf name registries]

end

variable {registry : Registry} {name : String} {entry : Entry}

theorem get?_eq_some_iff_provides :
    registry.get? name = some entry ↔ registry.Provides name entry := by
  rw [get?_eq_findSome?, List.findSome?_eq_some_iff]
  constructor
  · rintro ⟨before, leaf, after, hleaves, hleaf, hbefore⟩
    obtain ⟨earlier, later, rfl, hname, hlater⟩ := registeredLast?_eq_some_iff.mp hleaf
    exact ⟨before, earlier, later, after, hleaves, hname,
      fun leaf hmem => registeredLast?_eq_none_iff.mp (hbefore leaf hmem), hlater⟩
  · rintro ⟨before, earlier, later, after, hleaves, hname, hbefore, hlater⟩
    exact ⟨before, _, after, hleaves,
      registeredLast?_eq_some_iff.mpr ⟨earlier, later, rfl, hname, hlater⟩,
      fun leaf hmem => registeredLast?_eq_none_iff.mpr (hbefore leaf hmem)⟩

/-- An index has its entries at their own names. -/
theorem name_of_mem_index (h : (name, entry) ∈ registry.index.entries) : entry.name = name := by
  rw [← SortedMap.get?_eq_some_iff, get?_index] at h
  exact name_of_get? registry h

theorem mem_list_iff : entry ∈ registry.list ↔ registry.get? entry.name = some entry := by
  rw [list, List.mem_map, ← get?_index, SortedMap.get?_eq_some_iff]
  constructor
  · rintro ⟨⟨name, _⟩, hmem, rfl⟩
    obtain rfl := name_of_mem_index hmem
    exact hmem
  · intro hmem
    exact ⟨_, hmem, rfl⟩

theorem pairwise_list (registry : Registry) :
    registry.list.Pairwise (fun a b => a.name < b.name) := by
  rw [list, List.pairwise_map]
  refine registry.index.sorted.imp_of_mem ?_
  intro a b ha hb hlt
  rwa [name_of_mem_index ha, name_of_mem_index hb]

/-- A registry lists its entries in the order of their names, each name once, and looking a name up
gives the entry that is listed with it, which is the one registered last in the first leaf that
knows the name. -/
theorem get?_eq_some_iff_mem_list (registry : Registry) :
    registry.list.Pairwise (fun a b => a.name < b.name) ∧
      registry.names = registry.list.map Entry.name ∧
      ∀ name entry,
        (registry.get? name = some entry ↔ entry ∈ registry.list ∧ entry.name = name) ∧
        (registry.get? name = some entry ↔ registry.Provides name entry) := by
  refine ⟨pairwise_list registry, rfl, ?_⟩
  intro name entry
  refine ⟨?_, get?_eq_some_iff_provides⟩
  rw [mem_list_iff]
  constructor
  · intro h
    obtain rfl := name_of_get? registry h
    exact ⟨h, rfl⟩
  · rintro ⟨h, rfl⟩
    exact h

end Registry

end RowRecipe
