import Mathlib.Data.List.Infix
import RowRecipe.Text.Pieces

/-!
# Pieces of a text

The pieces between the occurrences of a separator give the text back when they are joined with it,
and the separator is in none of them: the leftmost occurrence is cut at, so the piece in front of it
has none, and neither has the last piece. A text without the separator is its only piece.

Main statements: `joinWith_splitFrom`, `not_infix_of_mem_splitFrom`, `splitFrom_of_not_infix`.
-/
namespace RowRecipe.Text
variable {separator cs piece : List Char} {pieces : List (List Char)} {c : Char}

theorem consFirst_ne_nil (c : Char) (pieces : List (List Char)) : consFirst c pieces ≠ [] := by
  cases pieces <;> exact List.cons_ne_nil _ _

theorem splitFrom_ne_nil (separator : List Char) (skip : Nat) (cs : List Char) :
    splitFrom separator skip cs ≠ [] := by
  fun_induction splitFrom separator skip cs with
  | case1 => exact List.cons_ne_nil _ _
  | case2 skip c cs ih => exact ih
  | case3 => exact List.cons_ne_nil _ _
  | case4 c cs _ _ => exact consFirst_ne_nil c _

theorem splitFrom_length_append (separator skipped rest : List Char) :
    splitFrom separator skipped.length (skipped ++ rest) = splitFrom separator 0 rest := by
  induction skipped with
  | nil => rfl
  | cons c skipped ih => rw [List.length_cons, List.cons_append, splitFrom, ih]

/-- A text is cut at a separator in front of it. -/
theorem splitFrom_append (hne : separator ≠ []) (rest : List Char) :
    splitFrom separator 0 (separator ++ rest) = [] :: splitFrom separator 0 rest := by
  obtain ⟨c, others, rfl⟩ := List.exists_cons_of_ne_nil hne
  have hfront : (c :: others).isPrefixOf (c :: (others ++ rest)) = true :=
    List.isPrefixOf_iff_prefix.mpr (List.prefix_append (c :: others) rest)
  rw [List.cons_append, splitFrom, if_pos hfront, List.length_cons, Nat.add_sub_cancel,
    splitFrom_length_append]

theorem splitFrom_cons (h : ¬separator <+: c :: cs) :
    splitFrom separator 0 (c :: cs) = consFirst c (splitFrom separator 0 cs) := by
  rw [splitFrom, if_neg (by rwa [List.isPrefixOf_iff_prefix])]

/-- Induction along the cuts of a text: a separator is passed as a whole, and any other character
alone. -/
theorem cutInduction {motive : List Char → Prop} (hne : separator ≠ []) (nil : motive [])
    (cut : ∀ rest, motive rest → motive (separator ++ rest))
    (char : ∀ c cs, ¬separator <+: c :: cs → motive cs → motive (c :: cs)) : ∀ cs, motive cs
  | [] => nil
  | c :: cs => by
    by_cases hfront : separator <+: c :: cs
    · obtain ⟨rest, hrest⟩ := hfront
      have hshort : rest.length < cs.length + 1 := by
        rw [← List.length_cons, ← hrest, List.length_append]
        exact Nat.lt_add_of_pos_left (List.length_pos_iff.mpr hne)
      rw [← hrest]
      exact cut rest (cutInduction hne nil cut char rest)
    · exact char c cs hfront (cutInduction hne nil cut char cs)
  termination_by cs => cs.length
  decreasing_by
    · exact hshort
    · exact Nat.lt_succ_self _

theorem joinWith_cons (separator piece : List Char) (hpieces : pieces ≠ []) :
    joinWith separator (piece :: pieces) = piece ++ separator ++ joinWith separator pieces := by
  obtain ⟨following, others, rfl⟩ := List.exists_cons_of_ne_nil hpieces
  rfl

theorem joinWith_consFirst (separator : List Char) (c : Char) (hpieces : pieces ≠ []) :
    joinWith separator (consFirst c pieces) = c :: joinWith separator pieces := by
  obtain ⟨piece, others, rfl⟩ := List.exists_cons_of_ne_nil hpieces
  cases others <;> rfl

theorem prefix_joinWith_cons (separator piece : List Char) (pieces : List (List Char)) :
    piece <+: joinWith separator (piece :: pieces) := by
  cases pieces with
  | nil => exact List.prefix_rfl
  | cons following others =>
    rw [joinWith_cons _ _ (List.cons_ne_nil _ _), List.append_assoc]
    exact List.prefix_append _ _

theorem joinWith_concat (separator last : List Char) (h : pieces ≠ []) :
    joinWith separator (pieces ++ [last]) = joinWith separator pieces ++ separator ++ last := by
  induction pieces with
  | nil => exact absurd rfl h
  | cons piece pieces ih =>
    cases pieces with
    | nil => rfl
    | cons following others =>
      rw [List.cons_append, joinWith_cons _ _ (List.append_ne_nil_of_left_ne_nil
        (List.cons_ne_nil _ _) _), ih (List.cons_ne_nil _ _), joinWith_cons _ _
        (List.cons_ne_nil _ _)]
      simp only [List.append_assoc]

theorem joinWith_ne_nil (separator : List Char) (h : ∀ piece ∈ pieces, piece ≠ [])
    (hne : pieces ≠ []) : joinWith separator pieces ≠ [] := by
  obtain ⟨first, others, rfl⟩ := List.exists_cons_of_ne_nil hne
  exact (prefix_joinWith_cons separator first others).ne_nil (h first List.mem_cons_self)

/-- The pieces of a text give it back. -/
theorem joinWith_splitFrom (hne : separator ≠ []) (cs : List Char) :
    joinWith separator (splitFrom separator 0 cs) = cs := by
  induction cs using cutInduction hne with
  | nil => rfl
  | cut rest ih =>
    rw [splitFrom_append hne, joinWith_cons _ _ (splitFrom_ne_nil _ _ _), ih, List.nil_append]
  | char c cs hfront ih =>
    rw [splitFrom_cons hfront, joinWith_consFirst _ _ (splitFrom_ne_nil _ _ _), ih]

/-- No piece holds the separator: it would begin where a piece does, and be cut at, or behind. -/
theorem not_infix_of_mem_splitFrom (hne : separator ≠ []) (h : piece ∈ splitFrom separator 0 cs) :
    ¬separator <:+: piece := by
  have hnil : ¬separator <:+: [] := by rwa [List.infix_nil]
  induction cs using cutInduction hne generalizing piece with
  | nil =>
    obtain rfl := List.mem_singleton.mp h
    exact hnil
  | cut rest ih =>
    rw [splitFrom_append hne] at h
    rcases List.mem_cons.mp h with rfl | h
    · exact hnil
    · exact ih h
  | char c cs hfront ih =>
    have hjoin := joinWith_splitFrom hne cs
    rw [splitFrom_cons hfront] at h
    obtain ⟨first, others, hpieces⟩ :=
      List.exists_cons_of_ne_nil (splitFrom_ne_nil separator 0 cs)
    rw [hpieces] at h hjoin ih
    rcases List.mem_cons.mp h with rfl | h
    · have hfirst : first <+: cs := hjoin ▸ prefix_joinWith_cons separator first others
      rw [List.infix_cons_iff]
      rintro (hbegins | hbehind)
      · exact hfront (hbegins.trans ((List.prefix_cons_inj c).mpr hfirst))
      · exact ih List.mem_cons_self hbehind
    · exact ih (List.mem_cons_of_mem _ h)

theorem splitFrom_of_not_infix (h : ¬separator <:+: cs) : splitFrom separator 0 cs = [cs] := by
  induction cs with
  | nil => rfl
  | cons c cs ih =>
    rw [List.infix_cons_iff, not_or] at h
    rw [splitFrom_cons h.1, ih h.2, consFirst]

section
variable {separator text piece : String}

theorem toList_ne_nil (h : separator ≠ "") : separator.toList ≠ [] := by simpa using h

theorem split_ne_nil (separator text : String) : split separator text ≠ [] := by
  rw [split, ne_eq, List.map_eq_nil_iff]
  exact splitFrom_ne_nil _ _ _

theorem map_toList_map_ofList (pieces : List (List Char)) :
    (pieces.map String.ofList).map String.toList = pieces := by
  rw [List.map_map]
  exact List.map_id'' (fun _ => String.toList_ofList) pieces

theorem join_split (hne : separator ≠ "") (text : String) :
    join separator (split separator text) = text := by
  rw [join, split, map_toList_map_ofList, joinWith_splitFrom (toList_ne_nil hne),
    String.ofList_toList]

theorem not_infix_of_mem_split (hne : separator ≠ "") (h : piece ∈ split separator text) :
    ¬separator.toList <:+: piece.toList := by
  obtain ⟨cs, hcs, rfl⟩ := List.mem_map.mp h
  rw [String.toList_ofList]
  exact not_infix_of_mem_splitFrom (toList_ne_nil hne) hcs

theorem split_of_not_infix (h : ¬separator.toList <:+: text.toList) :
    split separator text = [text] := by
  rw [split, splitFrom_of_not_infix h, List.map_singleton, String.ofList_toList]

end

/-! ### Separators of one character -/

section
variable {separator : Char}

theorem splitAt_eq_splitFrom (separator : Char) (cs : List Char) :
    splitAt separator cs = splitFrom [separator] 0 cs := by
  induction cs with
  | nil => rfl
  | cons c cs ih =>
    rw [splitAt]
    split
    · next hc =>
      obtain rfl := hc
      rw [ih]
      exact (splitFrom_append (List.cons_ne_nil c []) cs).symm
    · next hc =>
      rw [ih, splitFrom_cons]
      simpa using Ne.symm hc

theorem splitAt_ne_nil (separator : Char) (cs : List Char) : splitAt separator cs ≠ [] := by
  rw [splitAt_eq_splitFrom]
  exact splitFrom_ne_nil _ _ _

theorem joinWith_splitAt (separator : Char) (cs : List Char) :
    joinWith [separator] (splitAt separator cs) = cs := by
  rw [splitAt_eq_splitFrom]
  exact joinWith_splitFrom (List.cons_ne_nil _ _) cs

theorem notMem_of_mem_splitAt (h : piece ∈ splitAt separator cs) : separator ∉ piece := by
  rw [splitAt_eq_splitFrom] at h
  rw [← List.singleton_infix_iff]
  exact not_infix_of_mem_splitFrom (List.cons_ne_nil _ _) h

theorem splitAt_of_notMem (h : separator ∉ cs) : splitAt separator cs = [cs] := by
  rw [splitAt_eq_splitFrom]
  exact splitFrom_of_not_infix (by rwa [List.singleton_infix_iff])

/-- Two texts with the separator between them have the pieces of the one and those of the other. -/
theorem splitAt_append (separator : Char) (a b : List Char) :
    splitAt separator (a ++ separator :: b) = splitAt separator a ++ splitAt separator b := by
  induction a with
  | nil => exact if_pos rfl
  | cons c a ih =>
    rw [List.cons_append, splitAt, splitAt, ih]
    split
    · rfl
    · obtain ⟨first, others, hpieces⟩ := List.exists_cons_of_ne_nil (splitAt_ne_nil separator a)
      rw [hpieces]
      rfl

theorem splitAt_append_cons (h : separator ∉ cs) (rest : List Char) :
    splitAt separator (cs ++ separator :: rest) = cs :: splitAt separator rest := by
  rw [splitAt_append, splitAt_of_notMem h]
  rfl

end

end RowRecipe.Text
