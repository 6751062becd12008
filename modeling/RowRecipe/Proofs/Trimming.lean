import Mathlib.Data.List.DropRight
import RowRecipe.Text.Blank

/-!
# Trimmed texts

A text is its own trimming if no blank stands at one of its ends, and nothing is left of a text
with no character but blank ones.
-/
namespace RowRecipe.Text

/-- Characters with no blank at their ends. -/
def IsTrimmed (cs : List Char) : Prop :=
  (∀ c ∈ cs.head?, isBlank c = false) ∧ ∀ c ∈ cs.getLast?, isBlank c = false

variable {cs gap a b : List Char}

theorem dropBlank_eq_self_iff : dropBlank cs = cs ↔ ∀ c ∈ cs.head?, isBlank c = false := by
  rw [dropBlank, List.dropWhile_eq_self_iff]
  cases cs <;> simp

theorem dropBlankEnd_eq_self_iff :
    dropBlankEnd cs = cs ↔ ∀ c ∈ cs.getLast?, isBlank c = false := by
  rw [dropBlankEnd, List.reverse_eq_iff, dropBlank_eq_self_iff, List.head?_reverse]

theorem trimChars_eq_self_iff : trimChars cs = cs ↔ IsTrimmed cs := by
  rw [IsTrimmed, ← dropBlank_eq_self_iff, ← dropBlankEnd_eq_self_iff, trimChars]
  constructor
  · intro h
    have hend : dropBlankEnd (dropBlank cs) <+: dropBlank cs := List.rdropWhile_prefix ..
    rw [h] at hend
    have hfront : dropBlank cs = cs :=
      (List.dropWhile_suffix isBlank).eq_of_length_le hend.length_le
    rw [hfront] at h
    exact ⟨hfront, h⟩
  · rintro ⟨hfront, hend⟩
    rw [hfront, hend]

theorem trim_eq_self_iff {text : String} : trim text = text ↔ IsTrimmed text.toList := by
  rw [← String.toList_inj, toList_trim, trimChars_eq_self_iff]

theorem trimChars_prefix_dropBlank (cs : List Char) : trimChars cs <+: dropBlank cs :=
  List.rdropWhile_prefix isBlank (dropBlank cs)

theorem mem_of_mem_trimChars {c : Char} (h : c ∈ trimChars cs) : c ∈ cs :=
  (List.dropWhile_sublist isBlank).mem ((trimChars_prefix_dropBlank cs).subset h)

theorem forall_mem_head?_of_front {P : Char → Prop} (hfront : a <+: b)
    (h : ∀ c ∈ b.head?, P c) : ∀ c ∈ a.head?, P c := by
  intro c hc
  obtain ⟨rest, rfl⟩ := hfront
  apply h c
  rw [List.head?_append, Option.mem_def.mp hc]
  rfl

theorem isTrimmed_trimChars (cs : List Char) : IsTrimmed (trimChars cs) := by
  have hfront : ∀ c ∈ (dropBlank cs).head?, isBlank c = false :=
    dropBlank_eq_self_iff.mp (List.dropWhile_idempotent isBlank cs)
  have hend : ∀ c ∈ (trimChars cs).getLast?, isBlank c = false :=
    dropBlankEnd_eq_self_iff.mp (List.rdropWhile_idempotent isBlank (dropBlank cs))
  exact ⟨forall_mem_head?_of_front (trimChars_prefix_dropBlank cs) hfront, hend⟩

theorem trimChars_eq_nil_iff : trimChars cs = [] ↔ ∀ c ∈ cs, isBlank c = true := by
  have hend : trimChars cs = [] ↔ ∀ c ∈ dropBlank cs, isBlank c = true :=
    List.rdropWhile_eq_nil_iff
  rw [hend]
  constructor
  · intro h c hc
    rw [← List.takeWhile_append_dropWhile (p := isBlank) (l := cs)] at hc
    rcases List.mem_append.mp hc with hc | hc
    · exact List.mem_takeWhile_imp hc
    · exact h c hc
  · intro h c hc
    exact h c ((List.dropWhile_sublist isBlank).mem hc)

/-- What trimming takes away is blank. -/
theorem exists_eq_append_trimChars (cs : List Char) :
    ∃ front behind, cs = front ++ trimChars cs ++ behind ∧ (∀ c ∈ front, isBlank c = true) ∧
      ∀ c ∈ behind, isBlank c = true := by
  refine ⟨cs.takeWhile isBlank, (dropBlank cs).rtakeWhile isBlank, ?_,
    fun c hc => List.mem_takeWhile_imp hc, fun c hc => List.mem_rtakeWhile_imp hc⟩
  have hend : trimChars cs ++ (dropBlank cs).rtakeWhile isBlank = dropBlank cs :=
    List.rdropWhile_append_rtakeWhile
  rw [List.append_assoc, hend]
  exact List.takeWhile_append_dropWhile.symm

theorem dropBlankEnd_append (hend : ∀ c ∈ cs.getLast?, isBlank c = false)
    (hgap : ∀ c ∈ gap, isBlank c = true) : dropBlankEnd (cs ++ gap) = cs := by
  have hdrop : dropBlankEnd (cs ++ gap) = dropBlankEnd cs := by
    rw [dropBlankEnd, List.reverse_append, dropBlank,
      List.dropWhile_append_of_pos (by simpa using hgap), dropBlankEnd, dropBlank]
  rw [hdrop, dropBlankEnd_eq_self_iff.mpr hend]

theorem IsTrimmed.append (ha : IsTrimmed a) (hb : IsTrimmed b) (hane : a ≠ []) (hbne : b ≠ [])
    (gap : List Char) : IsTrimmed (a ++ gap ++ b) := by
  constructor
  · rw [List.append_assoc, List.head?_append_of_ne_nil _ hane]
    exact ha.1
  · rw [List.getLast?_append_of_ne_nil _ hbne]
    exact hb.2

end RowRecipe.Text
