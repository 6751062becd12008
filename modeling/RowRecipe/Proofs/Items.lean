import RowRecipe.Proofs.Pieces
import RowRecipe.Proofs.Trimming
import RowRecipe.Recipe.Argument

/-!
# Items of lists

A list is cut at its commas, and each piece without the blanks around it is an item, unless nothing
is left of it. So an item is trimmed and has no comma in it, and nothing of the text gets lost but
commas and blanks. Items that are joined with commas are read back, and a text that is put together
of two with a comma between them has the items of both.

Main statement: `Argument.read_list_items`.
-/
namespace RowRecipe
variable {cs item : List Char} {items : List (List Char)}

/-- What an item of a list may be. -/
structure IsItem (item : List Char) : Prop where
  isTrimmed : Text.IsTrimmed item
  ne_nil : item ≠ []
  comma_notMem : ',' ∉ item

/-- Characters that are in no item. -/
def IsItemGap (cs : List Char) : Prop :=
  ∀ c ∈ cs, c = ',' ∨ Text.isBlank c = true

/-- The text ends, or a comma comes next, blanks apart. -/
def EndsItem (rest : List Char) : Prop :=
  ∀ c ∈ (Text.dropBlank rest).head?, c = ','

/-- Items stand in a text in their order, with nothing but gaps around them and with a comma between
two of them. -/
inductive ItemsStandIn : List (List Char) → List Char → Prop where
  | behind {gap : List Char} (hgap : IsItemGap gap) : ItemsStandIn [] gap
  | item {gap rest : List Char} {items : List (List Char)} (item : List Char)
      (hgap : IsItemGap gap) (hrest : EndsItem rest) (h : ItemsStandIn items rest) :
      ItemsStandIn (item :: items) (gap ++ item ++ rest)

theorem endsItem_nil : EndsItem [] := by simp [EndsItem, Text.dropBlank]

theorem endsItem_comma (rest : List Char) : EndsItem (',' :: rest) := by
  have hcomma : Text.dropBlank (',' :: rest) = ',' :: rest := rfl
  simp [EndsItem, hcomma]

theorem EndsItem.blanks_append {blanks rest : List Char} (h : EndsItem rest)
    (hblanks : ∀ c ∈ blanks, Text.isBlank c = true) : EndsItem (blanks ++ rest) := by
  rwa [EndsItem, Text.dropBlank, List.dropWhile_append_of_pos hblanks]

theorem ItemsStandIn.gap_append {gap : List Char} (hgap : IsItemGap gap)
    (h : ItemsStandIn items cs) : ItemsStandIn items (gap ++ cs) := by
  cases h with
  | behind hbehind => exact .behind (List.forall_mem_append.mpr ⟨hgap, hbehind⟩)
  | item item hfront hrest h =>
    rw [← List.append_assoc, ← List.append_assoc]
    exact .item item (List.forall_mem_append.mpr ⟨hgap, hfront⟩) hrest h

/-! ### Reading -/

theorem readItems_append_comma (a b : List Char) :
    readItems (a ++ ',' :: b) = readItems a ++ readItems b := by
  rw [readItems, Text.splitAt_append, List.map_append, List.filter_append]
  rfl

theorem isItem_of_mem_readItems (h : item ∈ readItems cs) : IsItem item := by
  rw [readItems, List.mem_filter, List.mem_map] at h
  obtain ⟨⟨piece, hpiece, rfl⟩, hne⟩ := h
  have hcomma := Text.notMem_of_mem_splitAt hpiece
  exact ⟨Text.isTrimmed_trimChars piece, of_decide_eq_true hne,
    fun hmem => hcomma (Text.mem_of_mem_trimChars hmem)⟩

theorem readItems_of_isItem (h : IsItem item) : readItems item = [item] := by
  rw [readItems, Text.splitAt_of_notMem h.comma_notMem, List.map_singleton,
    Text.trimChars_eq_self_iff.mpr h.isTrimmed, List.filter_cons_of_pos (by simpa using h.ne_nil),
    List.filter_nil]

/-- Items that are joined with commas are read back. -/
theorem readItems_joinWith (h : ∀ item ∈ items, IsItem item) :
    readItems (Text.joinWith [','] items) = items := by
  induction items with
  | nil => rfl
  | cons item items ih =>
    obtain ⟨hitem, hitems⟩ := List.forall_mem_cons.mp h
    cases items with
    | nil => exact readItems_of_isItem hitem
    | cons following others =>
      rw [Text.joinWith_cons _ _ (List.cons_ne_nil _ _), List.append_assoc, List.singleton_append,
        readItems_append_comma, readItems_of_isItem hitem, ih hitems, List.singleton_append]

/-- A piece has one item in it, or only blanks. -/
theorem itemsStandIn_piece_append {rest : List Char} (piece : List Char) (hrest : EndsItem rest)
    (h : ItemsStandIn items rest) :
    ItemsStandIn ([Text.trimChars piece].filter (· ≠ []) ++ items) (piece ++ rest) := by
  obtain ⟨front, behind, hpiece, hfront, hblanks⟩ := Text.exists_eq_append_trimChars piece
  have hfront : IsItemGap front := fun c hc => .inr (hfront c hc)
  have hbehind : IsItemGap behind := fun c hc => .inr (hblanks c hc)
  by_cases hnil : Text.trimChars piece = []
  · rw [List.filter_cons_of_neg (by simpa using hnil), List.filter_nil, List.nil_append, hpiece,
      hnil, List.append_nil, List.append_assoc]
    exact (h.gap_append hbehind).gap_append hfront
  · rw [List.filter_cons_of_pos (by simpa using hnil), List.filter_nil, List.singleton_append]
    nth_rewrite 2 [hpiece]
    rw [List.append_assoc]
    exact .item _ hfront (hrest.blanks_append hblanks) (h.gap_append hbehind)

theorem itemsStandIn_joinWith (pieces : List (List Char)) :
    ItemsStandIn ((pieces.map Text.trimChars).filter (· ≠ [])) (Text.joinWith [','] pieces) := by
  induction pieces with
  | nil => exact .behind (List.forall_mem_nil _)
  | cons piece pieces ih =>
    rw [List.map_cons, ← List.singleton_append, List.filter_append]
    cases pieces with
    | nil =>
      have hpiece := itemsStandIn_piece_append piece endsItem_nil ih
      rw [List.append_nil] at hpiece
      exact hpiece
    | cons following others =>
      rw [Text.joinWith_cons _ _ (List.cons_ne_nil _ _), List.append_assoc]
      refine itemsStandIn_piece_append piece (endsItem_comma _) (ih.gap_append ?_)
      exact List.forall_mem_singleton.mpr (.inl rfl)

/-- The items of a text stand in it. -/
theorem itemsStandIn_readItems (cs : List Char) : ItemsStandIn (readItems cs) cs := by
  have hpieces := itemsStandIn_joinWith (Text.splitAt ',' cs)
  rwa [Text.joinWith_splitAt] at hpieces

/-! ### Arguments -/

namespace Argument

theorem read_list (name token : String) :
    read .list name token = .ok (.list ((readItems token.toList).map String.ofList)) := rfl

/-- Every text is read as a list. Its items are trimmed, not empty and without commas, and stand in
the text in their order, with nothing but commas and blanks around them and with a comma between two
of them; joined with commas they are read back. Two texts with a comma between them have the items
of the one and then those of the other. -/
theorem read_list_items (name : String) :
    (∀ raw : String, ∃ items : List String, read .list name raw = .ok (.list items) ∧
      (∀ item ∈ items, Text.trim item = item ∧ item ≠ "" ∧ ',' ∉ item.toList) ∧
      ItemsStandIn (items.map String.toList) raw.toList ∧
      read .list name (Text.join "," items) = .ok (.list items)) ∧
    ∀ a b : String, ∃ itemsA itemsB : List String,
      read .list name a = .ok (.list itemsA) ∧ read .list name b = .ok (.list itemsB) ∧
      read .list name (a ++ "," ++ b) = .ok (.list (itemsA ++ itemsB)) := by
  constructor
  · intro raw
    have hitems : ∀ item ∈ readItems raw.toList, IsItem item := fun item => isItem_of_mem_readItems
    refine ⟨_, read_list name raw, ?_, ?_, ?_⟩
    · rw [List.forall_mem_map]
      intro item hitem
      obtain ⟨htrimmed, hne, hcomma⟩ := hitems item hitem
      rw [Text.trim_eq_self_iff, String.toList_ofList]
      exact ⟨htrimmed, by simpa using hne, hcomma⟩
    · rw [Text.map_toList_map_ofList]
      exact itemsStandIn_readItems raw.toList
    · have hcomma : ",".toList = [','] := rfl
      rw [read_list, Text.join, Text.map_toList_map_ofList, String.toList_ofList, hcomma,
        readItems_joinWith hitems]
  · intro a b
    refine ⟨_, _, read_list name a, read_list name b, ?_⟩
    have htext : (a ++ "," ++ b).toList = a.toList ++ ',' :: b.toList := by simp
    rw [read_list, htext, readItems_append_comma, List.map_append]

/-- Blanks in an item stay, and a piece of blanks alone is none. -/
example : read .list "columns" " a ,, b c,\u00a0," = .ok (.list ["a", "b c"]) := by decide

end Argument

end RowRecipe
