import RowRecipe.Proofs.Layout
import RowRecipe.Proofs.Pieces

/-!
# Rows that are split

A row is split at a separator into a group of rows, one for each piece of the text of a cell; a row
whose cell has no text is a group alone. All rows of a group are the row again but for that cell,
and its pieces joined are the text. As the separator is in no piece, a row of a group is split into
itself.

Main statement: `RowDirective.execute_split`.
-/
namespace RowRecipe

namespace Row
variable {row : Row} {column separator text : String} {position : Nat} {value : Cell}

/-- A group of rows is what a row is split into by the text of the first cell of a column. -/
structure SplitsInto (column separator : String) (row : Row) (group : List Row) : Prop where
  ne_nil : group ≠ []
  /-- The cells of the group are the pieces of the text. -/
  pieces : ∀ text, (row.get? column).bind Cell.rendered? = some text →
    ∃ pieces : List String,
      group.map (Row.get? · column) = pieces.map (fun piece => some (.text piece)) ∧
      Text.join separator pieces = text ∧ ∀ piece ∈ pieces, ¬separator.toList <:+: piece.toList
  /-- All names and all other cells are those of the row. -/
  others : ∀ part ∈ group, part.columns = row.columns ∧
    ∀ i, row.find? column ≠ some i → part[i]? = row[i]?
  whole : (row.get? column).bind Cell.rendered? = none → group = [row]

theorem getElem?_setAt_of_ne {i : Nat} (hne : position ≠ i) (row : Row) (value : Cell) :
    (row.setAt position value)[i]? = row[i]? :=
  List.getElem?_modify_ne _ row hne

theorem splitColumn_of_text (h : row.require column = .ok (position, value))
    (htext : value.rendered? = some text) (separator : String) :
    row.splitColumn column separator =
      .ok ((Text.split separator text).map fun piece => row.setAt position (.text piece)) := by
  rw [splitColumn, h, ok_bind]
  simp only [htext]
  rfl

theorem splitColumn_of_no_text (h : row.require column = .ok (position, value))
    (hnone : value.rendered? = none) (separator : String) :
    row.splitColumn column separator = .ok [row] := by
  rw [splitColumn, h, ok_bind]
  simp only [hnone]
  rfl

/-- A row is not split again at a separator that its text does not hold. -/
theorem splitColumn_piece (h : row.require column = .ok (position, value))
    (hpiece : ¬separator.toList <:+: text.toList) :
    (row.setAt position (.text text)).splitColumn column separator =
      .ok [row.setAt position (.text text)] := by
  have hrequire := require_setAt h (.text text)
  rw [splitColumn_of_text hrequire rfl, Text.split_of_not_infix hpiece, List.map_singleton,
    setAt_setAt]

theorem splitsInto_pieces (h : row.require column = .ok (position, value))
    (htext : value.rendered? = some text) (hne : separator ≠ "") :
    row.SplitsInto column separator
      ((Text.split separator text).map fun piece => row.setAt position (.text piece)) := by
  obtain ⟨hposition, hvalue⟩ := require_eq_ok.mp h
  have hrendered : (row.get? column).bind Cell.rendered? = some text := by
    rw [hvalue, Option.bind_some, htext]
  refine ⟨?_, ?_, ?_, ?_⟩
  · rw [ne_eq, List.map_eq_nil_iff]
    exact Text.split_ne_nil separator text
  · intro other hother
    obtain rfl := Option.some.inj (hrendered.symm.trans hother)
    refine ⟨Text.split separator text, ?_, Text.join_split hne text,
      fun piece => Text.not_infix_of_mem_split hne⟩
    rw [List.map_map]
    refine List.map_congr_left fun piece _ => ?_
    exact (require_eq_ok.mp (require_setAt h (.text piece))).2
  · rw [List.forall_mem_map]
    intro piece _
    refine ⟨row.columns_setAt position (.text piece), fun i hi => ?_⟩
    refine getElem?_setAt_of_ne ?_ row (.text piece)
    rintro rfl
    exact hi hposition
  · intro hnone
    rw [hrendered] at hnone
    cases hnone

theorem splitsInto_single (h : (row.get? column).bind Cell.rendered? = none) :
    row.SplitsInto column separator [row] where
  ne_nil := List.cons_ne_nil row []
  pieces text htext := by
    rw [h] at htext
    cases htext
  others := List.forall_mem_singleton.mpr ⟨rfl, fun _ _ => rfl⟩
  whole _ := rfl

/-- A row with the column is split into a group, and each row of the group into itself. -/
theorem exists_group (hvalue : row.get? column = some value) (hne : separator ≠ "") :
    ∃ group, row.splitColumn column separator = .ok group ∧
      row.SplitsInto column separator group ∧
      ∀ part ∈ group, part.splitColumn column separator = .ok [part] := by
  obtain ⟨position, hrequire⟩ := exists_require_of_get? hvalue
  cases htext : value.rendered? with
  | none =>
    have hsplit := splitColumn_of_no_text hrequire htext separator
    refine ⟨[row], hsplit, splitsInto_single ?_, List.forall_mem_singleton.mpr hsplit⟩
    rw [hvalue, Option.bind_some, htext]
  | some text =>
    refine ⟨_, splitColumn_of_text hrequire htext separator,
      splitsInto_pieces hrequire htext hne, ?_⟩
    rw [List.forall_mem_map]
    intro piece hpiece
    exact splitColumn_piece hrequire (Text.not_infix_of_mem_split hne hpiece)

end Row

namespace RowDirective
variable {rows : List Row} {store : Store} {column separator : String}

theorem apply_split {row : Row} {group : List Row}
    (h : row.splitColumn column separator = .ok group) (store : Store) :
    (split column separator).apply store row = .ok (group.map .keep) := by
  rw [apply, h]
  rfl

/-- Where each row comes out as a group of rows, so does the batch, one group after another. -/
theorem exists_groups {directive : RowDirective} {made : Row → List Row → Prop}
    (hrows : ∀ row ∈ rows, ∃ group, directive.apply store row = .ok (group.map .keep) ∧
      made row group) :
    ∃ groups : List (List Row), directive.applyAll store rows = .ok (groups.flatten.map .keep) ∧
      List.Forall₂ made rows groups := by
  induction rows with
  | nil => exact ⟨[], rfl, .nil⟩
  | cons row rows ih =>
    obtain ⟨⟨group, hgroup, hmade⟩, hrest⟩ := List.forall_mem_cons.mp hrows
    obtain ⟨groups, hgroups, hothers⟩ := ih hrest
    refine ⟨group :: groups, ?_, .cons hmade hothers⟩
    rw [applyAll, hgroup, hgroups, List.flatten_cons, List.map_append]
    rfl

theorem forall_mem_flatten_of_forall₂ {P : Row → Prop} {groups : List (List Row)}
    (h : List.Forall₂ (fun _ group => ∀ part ∈ group, P part) rows groups) :
    ∀ part ∈ groups.flatten, P part := by
  induction h with
  | nil => exact List.forall_mem_nil P
  | cons hgroup _ ih =>
    rw [List.flatten_cons, List.forall_mem_append]
    exact ⟨hgroup, ih⟩

/-- Where every row has the column, a batch is split into one group of rows for each row, in the
order of the rows: a row whose cell has a text into rows with pieces of it that hold no separator
and that joined are the text, and any other row into itself. Splitting what comes out once more
changes nothing. -/
theorem execute_split (hseparator : separator ≠ "")
    (hrows : ∀ row ∈ rows, (row.get? column).isSome) (store : Store) :
    ∃ groups : List (List Row),
      (Directive.builtin (.row (.split column separator))).execute rows store =
        (.ok (groups.flatten.map .keep), store) ∧
      List.Forall₂ (Row.SplitsInto column separator) rows groups ∧
      (Directive.builtin (.row (.split column separator))).execute groups.flatten store =
        (.ok (groups.flatten.map .keep), store) := by
  have hgroup : ∀ row ∈ rows, ∃ group,
      (split column separator).apply store row = .ok (group.map .keep) ∧
        row.SplitsInto column separator group ∧
        ∀ part ∈ group, (split column separator).apply store part = .ok [.keep part] := by
    intro row hrow
    obtain ⟨value, hvalue⟩ := Option.isSome_iff_exists.mp (hrows row hrow)
    obtain ⟨group, hsplit, hinto, hparts⟩ := Row.exists_group hvalue hseparator
    exact ⟨group, apply_split hsplit store, hinto,
      fun part hpart => apply_split (hparts part hpart) store⟩
  obtain ⟨groups, hall, hmade⟩ := exists_groups hgroup
  have hparts : ∀ part ∈ groups.flatten,
      (split column separator).apply store part = .ok [.keep part] :=
    forall_mem_flatten_of_forall₂ (hmade.imp fun _ _ h => h.2)
  have hagain := Directive.execute_row_map id id hparts
  rw [List.map_id] at hagain
  exact ⟨groups, Directive.execute_row_eq_ok.mpr ⟨hall, rfl⟩, hmade.imp fun _ _ h => h.1, hagain⟩

/-- Occurrences of the separator that overlap an earlier one are not cut at, also in the digits of a
number; a cell of the same name further on stays. -/
theorem execute_split_overlapping :
    let rows : List Row := [[("n", .text "000a00"), ("m", .null), ("n", .text "00")],
      [("n", .null)], [("m", .boolean true), ("n", .whole (-10001))], [("n", .bytes [0, 0])]]
    let parts : List Row := [[("n", .text ""), ("m", .null), ("n", .text "00")],
      [("n", .text "0a"), ("m", .null), ("n", .text "00")],
      [("n", .text ""), ("m", .null), ("n", .text "00")], [("n", .null)],
      [("m", .boolean true), ("n", .text "-1")], [("m", .boolean true), ("n", .text "01")],
      [("n", .bytes [0, 0])]]
    "00" ≠ "" ∧ (∀ row ∈ rows, (row.get? "n").isSome) ∧
      ∃ groups : List (List Row), groups.flatten = parts ∧
        (Directive.builtin (.row (.split "n" "00"))).execute rows .empty =
          (.ok (parts.map .keep), .empty) ∧
        List.Forall₂ (Row.SplitsInto "n" "00") rows groups ∧
        (Directive.builtin (.row (.split "n" "00"))).execute parts .empty =
          (.ok (parts.map .keep), .empty) := by
  intro rows parts
  have hseparator : "00" ≠ "" := by decide
  have hrows : ∀ row ∈ rows, (row.get? "n").isSome := by
    simp only [rows, List.forall_mem_cons]
    exact ⟨rfl, rfl, rfl, rfl, List.forall_mem_nil _⟩
  have hparts : (Directive.builtin (.row (.split "n" "00"))).execute rows .empty =
      (.ok (parts.map .keep), .empty) := rfl
  obtain ⟨groups, hall, hinto, hagain⟩ := execute_split hseparator hrows .empty
  have hsame : parts = groups.flatten := by
    rw [hparts] at hall
    exact Outcome.map_keep_injective (Except.ok.inj (Prod.mk.inj hall).1)
  exact ⟨hseparator, hrows, groups, hsame.symm, hparts, hinto, hsame ▸ hagain⟩

end RowDirective

end RowRecipe
