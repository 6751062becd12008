import Mathlib.Data.List.Sort
import RowRecipe.Proofs.ByteOrder
import RowRecipe.SortedMap

/-!
# Entries by name

The value of a name in a list of entries is that of the first entry with the name. So the first
entries of the names tell all that can be looked up, and where no name comes twice their order does
not count. Entries in the order of their names are determined by what can be looked up in them.
-/
namespace RowRecipe

variable {α β : Type} {name : String} {value : α} {entries others : List (String × α)}

theorem lookupEntry_append (name : String) (entries others : List (String × α)) :
    lookupEntry name (entries ++ others) =
      (lookupEntry name entries).or (lookupEntry name others) := by
  induction entries with
  | nil => rfl
  | cons entry entries ih =>
    simp only [List.cons_append, lookupEntry]
    split
    · rfl
    · exact ih

theorem lookupEntry_map (f : α → β) (name : String) (entries : List (String × α)) :
    lookupEntry name (entries.map fun entry => (entry.1, f entry.2)) =
      (lookupEntry name entries).map f := by
  induction entries with
  | nil => rfl
  | cons entry entries ih =>
    simp only [List.map_cons, lookupEntry]
    split
    · rfl
    · exact ih

theorem lookupEntry_filter (wanted : String → Bool) (h : wanted name = true) :
    lookupEntry name (entries.filter fun entry => wanted entry.1) = lookupEntry name entries := by
  induction entries with
  | nil => rfl
  | cons entry entries ih =>
    rw [List.filter_cons]
    split
    · simp only [lookupEntry, ih]
    · next hunwanted =>
      have hne : entry.1 ≠ name := fun heq => hunwanted (heq ▸ h)
      simp only [lookupEntry, if_neg hne, ih]

/-! ### Names that come once -/

/-- The order of entries with different names does not count. -/
theorem lookupEntry_perm (hperm : entries.Perm others) (h : (entries.map Prod.fst).Nodup)
    (name : String) : lookupEntry name entries = lookupEntry name others := by
  have hothers : (others.map Prod.fst).Nodup := (hperm.map Prod.fst).nodup_iff.mp h
  apply Option.ext
  intro value
  rw [lookupEntry_eq_some_iff h, lookupEntry_eq_some_iff hothers]
  exact hperm.mem_iff

theorem NamesIncrease.nodup (h : NamesIncrease entries) : (entries.map Prod.fst).Nodup :=
  nodup_of_sorted (namesIncrease_iff.mp h)

/-- Entries in the order of their names are told by what is looked up in them. -/
theorem NamesIncrease.eq_of_lookupEntry_eq (h : NamesIncrease entries)
    (hothers : NamesIncrease others)
    (hsame : ∀ name, lookupEntry name entries = lookupEntry name others) : entries = others := by
  have hmem : ∀ entry, entry ∈ entries ↔ entry ∈ others := by
    intro entry
    rw [← lookupEntry_eq_some_iff h.nodup, hsame,
      lookupEntry_eq_some_iff hothers.nodup]
  have hperm : entries.Perm others :=
    (List.perm_ext_iff_of_nodup h.nodup.of_map hothers.nodup.of_map).mpr hmem
  apply hperm.eq_of_pairwise _ (namesIncrease_iff.mp h) (namesIncrease_iff.mp hothers)
  intro a b _ _ hab hba
  exact absurd hab (not_lt_of_gt hba)

namespace SortedMap

theorem namesIncrease (map : SortedMap α) : NamesIncrease map.entries :=
  namesIncrease_iff.mpr map.sorted

theorem ext_get? {map other : SortedMap α} (h : ∀ name, map.get? name = other.get? name) :
    map = other :=
  ext (map.namesIncrease.eq_of_lookupEntry_eq other.namesIncrease h)

@[simp] theorem get?_ofFirsts (entries : List (String × α)) (name : String) :
    (ofFirsts entries).get? name = lookupEntry name entries := by
  induction entries with
  | nil => rfl
  | cons entry entries ih => rw [ofFirsts, get?_insert, ih, lookupEntry]

end SortedMap

/-! ### First entries in order -/

/-- Of the entries with one name the first. -/
def firstEntries : List (String × α) → List (String × α)
  | [] => []
  | entry :: entries => entry :: (firstEntries entries).filter fun other => other.1 != entry.1

theorem firstEntries_sublist (entries : List (String × α)) :
    (firstEntries entries).Sublist entries := by
  induction entries with
  | nil => exact List.Sublist.slnil
  | cons entry entries ih => exact (List.filter_sublist.trans ih).cons_cons entry

theorem nodup_firstEntries (entries : List (String × α)) :
    ((firstEntries entries).map Prod.fst).Nodup := by
  induction entries with
  | nil => exact List.nodup_nil
  | cons entry entries ih =>
    rw [firstEntries, List.map_cons, List.nodup_cons]
    constructor
    · intro hmem
      obtain ⟨other, hother, heq⟩ := List.mem_map.mp hmem
      have hne : (other.1 != entry.1) = true := (List.mem_filter.mp hother).2
      simp [heq] at hne
    · exact (List.filter_sublist.map Prod.fst).nodup ih

theorem lookupEntry_firstEntries (name : String) (entries : List (String × α)) :
    lookupEntry name (firstEntries entries) = lookupEntry name entries := by
  induction entries with
  | nil => rfl
  | cons entry entries ih =>
    simp only [firstEntries, lookupEntry]
    split
    · rfl
    · next hne =>
      rw [lookupEntry_filter (fun other => other != entry.1) (by simpa using Ne.symm hne), ih]

/-- Whether the bytes of a name are not behind those of another one. -/
def IsOrdered (a b : String × α) : Prop :=
  Utf8.encode a.1.toList ≤ Utf8.encode b.1.toList

instance : DecidableRel (IsOrdered (α := α)) :=
  fun a b => inferInstanceAs (Decidable (Utf8.encode a.1.toList ≤ Utf8.encode b.1.toList))

theorem isOrdered_iff {a b : String × α} : IsOrdered a b ↔ a.1 ≤ b.1 := by
  unfold IsOrdered
  rw [← List.not_lt, Utf8.encode_lt_encode_iff, ← String.lt_iff_toList_lt, not_lt]

instance : Std.Total (IsOrdered (α := α)) where
  total a b := by
    simp only [isOrdered_iff]
    exact le_total a.1 b.1

instance : IsTrans (String × α) IsOrdered where
  trans a b c := by
    simp only [isOrdered_iff]
    exact le_trans

/-- The first entries of the names, in the order of the bytes of the names. -/
def sortedFirsts (entries : List (String × α)) : List (String × α) :=
  (firstEntries entries).insertionSort IsOrdered

theorem mem_of_mem_sortedFirsts {entry : String × α} (h : entry ∈ sortedFirsts entries) :
    entry ∈ entries :=
  (firstEntries_sublist entries).subset ((List.perm_insertionSort IsOrdered _).subset h)

theorem namesIncrease_sortedFirsts (entries : List (String × α)) :
    NamesIncrease (sortedFirsts entries) := by
  have hordered : (sortedFirsts entries).Pairwise IsOrdered := List.pairwise_insertionSort _ _
  have hperm : (sortedFirsts entries).Perm (firstEntries entries) := List.perm_insertionSort _ _
  have hdiffer : ((sortedFirsts entries).map Prod.fst).Nodup :=
    (hperm.map Prod.fst).nodup_iff.mpr (nodup_firstEntries entries)
  rw [namesIncrease_iff]
  apply (hordered.and (List.pairwise_map.mp hdiffer)).imp
  intro a b h
  exact lt_of_le_of_ne (isOrdered_iff.mp h.1) h.2

theorem lookupEntry_sortedFirsts (name : String) (entries : List (String × α)) :
    lookupEntry name (sortedFirsts entries) = lookupEntry name entries := by
  have hperm : (sortedFirsts entries).Perm (firstEntries entries) := List.perm_insertionSort _ _
  rw [lookupEntry_perm hperm (namesIncrease_sortedFirsts entries).nodup, lookupEntry_firstEntries]

theorem entries_ofFirsts (entries : List (String × α)) :
    (SortedMap.ofFirsts entries).entries = sortedFirsts entries := by
  apply (SortedMap.namesIncrease _).eq_of_lookupEntry_eq (namesIncrease_sortedFirsts entries)
  intro name
  rw [lookupEntry_sortedFirsts]
  exact SortedMap.get?_ofFirsts entries name

theorem sortedFirsts_of_namesIncrease (h : NamesIncrease entries) :
    sortedFirsts entries = entries :=
  (namesIncrease_sortedFirsts entries).eq_of_lookupEntry_eq h
    fun name => lookupEntry_sortedFirsts name entries

/-- Values are changed in the sorted entries as they are in the others. -/
theorem sortedFirsts_map (f : α → β) (entries : List (String × α)) :
    sortedFirsts (entries.map fun entry => (entry.1, f entry.2)) =
      (sortedFirsts entries).map fun entry => (entry.1, f entry.2) := by
  have hincrease : NamesIncrease ((sortedFirsts entries).map fun entry => (entry.1, f entry.2)) :=
    List.pairwise_map.mpr (namesIncrease_sortedFirsts entries)
  apply (namesIncrease_sortedFirsts _).eq_of_lookupEntry_eq hincrease
  intro name
  rw [lookupEntry_sortedFirsts, lookupEntry_map, lookupEntry_map, lookupEntry_sortedFirsts]

end RowRecipe
