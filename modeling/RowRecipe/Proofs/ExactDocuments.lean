import RowRecipe.Row
import RowRecipe.Proofs.JsonTrees

/-!
# The two documents of a cell

The exact document of a cell without dates has the members of its rows as they stand, and its plain
document has them sorted, the last of a name winning. Written and read as a tree the exact document
is the plain one, whatever is nested in what.

Main statement: `Cell.readTree_toExactJson`.
-/
namespace RowRecipe

open Json (readTree)

namespace Json

theorem normalizeItems_eq_map (items : List Json) : normalizeItems items = items.map normalize := by
  induction items with
  | nil => rfl
  | cons item items ih => rw [normalizeItems, ih, List.map_cons]

theorem normalizeMembers_eq_map (members : List (String × Json)) :
    normalizeMembers members = members.map fun member => (member.1, member.2.normalize) := by
  induction members with
  | nil => rfl
  | cons member members ih => rw [normalizeMembers, ih, List.map_cons]

end Json

namespace Cell

/-- A cell with no date at any depth. -/
inductive IsDateless : Cell → Prop
  | null : IsDateless .null
  | boolean (value : Bool) : IsDateless (.boolean value)
  | whole (value : Int64) : IsDateless (.whole value)
  | float (value : Float) : IsDateless (.float value)
  | text (value : String) : IsDateless (.text value)
  | bytes (value : List UInt8) : IsDateless (.bytes value)
  | list {items : List Cell} (h : ∀ item ∈ items, item.IsDateless) : IsDateless (.list items)
  | row {cells : List (String × Cell)} (h : ∀ cell ∈ cells, cell.2.IsDateless) :
    IsDateless (.row cells)

theorem itemsToExactJson_eq_map (items : List Cell) :
    itemsToExactJson items = items.map toExactJson := by
  induction items with
  | nil => rfl
  | cons item items ih => rw [itemsToExactJson, ih, List.map_cons]

theorem cellsToExactJson_eq_map (cells : List (String × Cell)) :
    cellsToExactJson cells = cells.map fun cell => (cell.1, cell.2.toExactJson) := by
  induction cells with
  | nil => rfl
  | cons cell cells ih => rw [cellsToExactJson, ih, List.map_cons]

theorem normalize_bytesJson (value : List UInt8) :
    (bytesJson value).normalize = bytesJson value := by
  rw [bytesJson, Json.normalize, Json.normalizeItems_eq_map, List.map_map]
  rfl

/-- The plain document is the normal form of the exact one. -/
theorem normalize_toExactJson {cell : Cell} (h : cell.IsDateless) :
    cell.toExactJson.normalize = cell.toJson := by
  induction h with
  | null => rfl
  | boolean value => rfl
  | whole value => rfl
  | float value =>
    rw [toExactJson, toJson, floatJson]
    split_ifs <;> rfl
  | text value => rfl
  | bytes value => exact normalize_bytesJson value
  | list _ ih =>
    rw [toExactJson, toJson, Json.normalize, itemsToExactJson_eq_map, itemsToJson_eq_map,
      Json.normalizeItems_eq_map, List.map_map]
    exact congrArg Json.array (List.map_congr_left ih)
  | row _ ih =>
    rw [toExactJson, toJson, Json.normalize, cellsToExactJson_eq_map, cellsToJson_eq_map,
      Json.normalizeMembers_eq_map, List.map_map]
    exact congrArg Json.ofMembers
      (List.map_congr_left fun cell hcell => Prod.ext rfl (ih cell hcell))

theorem isFinite_toExactJson {cell : Cell} (h : cell.IsDateless) : cell.toExactJson.IsFinite := by
  induction h with
  | null => exact .null
  | boolean value => exact .boolean value
  | whole value => exact .whole value
  | float value =>
    rw [toExactJson, floatJson]
    split_ifs with hfinite
    · exact .float hfinite
    · exact .null
  | text value => exact .text value
  | bytes value => exact .array (List.forall_mem_map.mpr fun byte _ => .whole _)
  | list _ ih =>
    rw [toExactJson, itemsToExactJson_eq_map]
    exact .array (List.forall_mem_map.mpr ih)
  | row _ ih =>
    rw [toExactJson, cellsToExactJson_eq_map]
    exact .object (List.forall_mem_map.mpr ih)

/-- The exact document of a cell without dates is written as texts that say the plain document, and
so is that of a row. -/
theorem readTree_toExactJson :
    (∀ cell : Cell, cell.IsDateless →
      readTree cell.toExactJson.compactText = .ok cell.toJson ∧
      readTree cell.toExactJson.spreadText = .ok cell.toJson) ∧
    ∀ row : Row, (∀ cell ∈ row, cell.2.IsDateless) →
      readTree row.toExactJson.compactText = .ok row.toJson ∧
      readTree row.toExactJson.spreadText = .ok row.toJson := by
  have hcell (cell : Cell) (h : cell.IsDateless) :
      readTree cell.toExactJson.compactText = .ok cell.toJson ∧
      readTree cell.toExactJson.spreadText = .ok cell.toJson := by
    have hfinite := isFinite_toExactJson h
    rw [← normalize_toExactJson h]
    constructor
    · refine Json.readTree_of_isTextOf ?_
      rw [Json.compactText, String.toList_ofList]
      exact Json.isTextOf_chars hfinite
    · refine Json.readTree_of_isTextOf ?_
      rw [Json.spreadText, String.toList_ofList]
      exact Json.isTextOf_spreadChars hfinite 0
  exact ⟨hcell, fun row h => hcell (.row row) (.row h)⟩

/-- A row that names a column twice, with bytes, with a float that is no number and, beside it, a
list with the negative zero. -/
def repeatedColumns : Row :=
  [("b", .bytes [0xFF]),
    ("a", .list [.float (Binary64.nearest false 1 10), .float (Binary64.nearest true 0 1)]),
    ("b", .row [("c", .float Binary64.notANumber), ("c", .whole (-5))])]

theorem compactText_repeatedColumns :
    repeatedColumns.toExactJson.compactText =
      "\x7b\"b\":[255],\"a\":[0.1,-0.0],\"b\":\x7b\"c\":null,\"c\":-5\x7d\x7d" := by
  decide +kernel

theorem isDateless_of_mem_repeatedColumns :
    ∀ cell ∈ repeatedColumns, cell.2.IsDateless := by
  simp only [repeatedColumns, List.forall_mem_cons, List.not_mem_nil, false_imp_iff,
    implies_true, and_true]
  refine ⟨.bytes _, .list ?_, .row ?_⟩
  · simp only [List.forall_mem_cons, List.not_mem_nil, false_imp_iff, implies_true, and_true]
    exact ⟨.float _, .float _⟩
  · simp only [List.forall_mem_cons, List.not_mem_nil, false_imp_iff, implies_true, and_true]
    exact ⟨.float _, .whole _⟩

/-- Of the columns of one name the tree has the last, and the negative zero keeps its sign. -/
theorem readTree_toExactJson_repeatedColumns :
    (Cell.row repeatedColumns).IsDateless ∧
    (∀ cell ∈ repeatedColumns, cell.2.IsDateless) ∧
    readTree
        "\x7b\"b\":[255],\"a\":[0.1,-0.0],\"b\":\x7b\"c\":null,\"c\":-5\x7d\x7d" =
      .ok (.object [
        ("a", .array [.float (Binary64.nearest false 1 10), .float (Binary64.nearest true 0 1)]),
        ("b", .object [("c", .whole (-5))])]) ∧
    readTree (Cell.list [.row repeatedColumns]).toExactJson.spreadText =
      .ok (.array [repeatedColumns.toJson]) := by
  have hrow := isDateless_of_mem_repeatedColumns
  have hlist : (Cell.list [.row repeatedColumns]).IsDateless :=
    .list (List.forall_mem_singleton.mpr (.row hrow))
  refine ⟨.row hrow, hrow, ?_, (readTree_toExactJson.1 _ hlist).2⟩
  rw [← compactText_repeatedColumns]
  exact (readTree_toExactJson.2 repeatedColumns hrow).1

end Cell

end RowRecipe
