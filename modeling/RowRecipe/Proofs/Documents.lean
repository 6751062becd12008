import RowRecipe.Cell
import RowRecipe.Proofs.ByteOrder

/-!
# Cells and their documents

A plain cell has nothing that its document cannot show: no date, no bytes, no float that is not
finite, and no row whose names do not increase. A plain document has only finite floats and objects
whose names increase. The document of a cell is always plain, and between plain cells and plain
documents the two conversions undo each other.

Main statement: `Cell.ofJson_toJson_eq_self_iff`.
-/
namespace RowRecipe

/-- A document whose floats are finite and the names of whose objects increase. -/
inductive Json.IsPlain : Json → Prop
  | null : IsPlain .null
  | boolean (value : Bool) : IsPlain (.boolean value)
  | whole (value : Int64) : IsPlain (.whole value)
  | float {value : Float} (h : Binary64.isFinite value = true) : IsPlain (.float value)
  | text (value : String) : IsPlain (.text value)
  | array {items : List Json} (h : ∀ item ∈ items, item.IsPlain) : IsPlain (.array items)
  | object {members : List (String × Json)} (hnames : NamesIncrease members)
      (h : ∀ member ∈ members, member.2.IsPlain) : IsPlain (.object members)

/-- A cell without dates, bytes and floats that are not finite, in whose rows the names increase. -/
inductive Cell.IsPlain : Cell → Prop
  | null : IsPlain .null
  | boolean (value : Bool) : IsPlain (.boolean value)
  | whole (value : Int64) : IsPlain (.whole value)
  | float {value : Float} (h : Binary64.isFinite value = true) : IsPlain (.float value)
  | text (value : String) : IsPlain (.text value)
  | list {items : List Cell} (h : ∀ item ∈ items, item.IsPlain) : IsPlain (.list items)
  | row {cells : List (String × Cell)} (hnames : NamesIncrease cells)
      (h : ∀ cell ∈ cells, cell.2.IsPlain) : IsPlain (.row cells)

theorem Json.isPlain_ofMembers {members : List (String × Json)}
    (h : ∀ member ∈ members, member.2.IsPlain) : (ofMembers members).IsPlain := by
  refine .object (namesIncrease_iff.mpr (SortedMap.ofList members).sorted) ?_
  rintro ⟨name, value⟩ hmember
  rw [← SortedMap.get?_eq_some_iff] at hmember
  exact h _ (SortedMap.mem_of_get?_ofList hmember)

theorem Json.ofMembers_of_namesIncrease {members : List (String × Json)}
    (h : NamesIncrease members) : ofMembers members = .object members := by
  rw [ofMembers, SortedMap.entries_ofList (namesIncrease_iff.mp h)]

namespace Cell

mutual

theorem isPlain_toJson : ∀ cell : Cell, cell.toJson.IsPlain
  | .null => .null
  | .boolean value => .boolean value
  | .whole value => .whole value
  | .float value => by
    rw [toJson, floatJson]
    split
    · next h => exact .float h
    · exact .null
  | .text value => .text value
  | .date value => .text value.text
  | .bytes value => by
    refine .array (List.forall_mem_map.mpr ?_)
    exact fun byte _ => .whole _
  | .list items => .array (isPlain_itemsToJson items)
  | .row cells => Json.isPlain_ofMembers (isPlain_cellsToJson cells)

theorem isPlain_itemsToJson : ∀ items : List Cell, ∀ item ∈ itemsToJson items, item.IsPlain
  | [] => by simp [itemsToJson]
  | item :: items => by
    rw [itemsToJson, List.forall_mem_cons]
    exact ⟨isPlain_toJson item, isPlain_itemsToJson items⟩

theorem isPlain_cellsToJson :
    ∀ cells : List (String × Cell), ∀ member ∈ cellsToJson cells, member.2.IsPlain
  | [] => by simp [cellsToJson]
  | (_, value) :: cells => by
    rw [cellsToJson, List.forall_mem_cons]
    exact ⟨isPlain_toJson value, isPlain_cellsToJson cells⟩

end

theorem isPlain_ofJson {json : Json} (h : json.IsPlain) : (ofJson json).IsPlain := by
  induction h with
  | null => exact .null
  | boolean value => exact .boolean value
  | whole value => exact .whole value
  | float h => exact .float h
  | text value => exact .text value
  | array _ ih =>
    rw [ofJson, itemsOfJson_eq_map]
    exact .list (List.forall_mem_map.mpr ih)
  | object hnames _ ih =>
    rw [ofJson, cellsOfJson_eq_map]
    exact .row (List.pairwise_map.mpr hnames) (List.forall_mem_map.mpr ih)

/-- A plain document is the document of its cell. -/
theorem toJson_ofJson {json : Json} (h : json.IsPlain) : (ofJson json).toJson = json := by
  induction h with
  | null => rfl
  | boolean value => rfl
  | whole value => rfl
  | float h => rw [ofJson, toJson, floatJson, if_pos h]
  | text value => rfl
  | array _ ih =>
    rw [ofJson, toJson, itemsOfJson_eq_map, itemsToJson_eq_map, List.map_map]
    exact congrArg Json.array ((List.map_congr_left ih).trans (List.map_id _))
  | @object members hnames _ ih =>
    have hmembers : cellsToJson (cellsOfJson members) = members := by
      rw [cellsOfJson_eq_map, cellsToJson_eq_map, List.map_map]
      refine (List.map_congr_left (g := id) ?_).trans (List.map_id _)
      exact fun member hmember => Prod.ext rfl (ih member hmember)
    rw [ofJson, toJson, hmembers, Json.ofMembers_of_namesIncrease hnames]

/-- A plain cell is the cell of its document. -/
theorem ofJson_toJson {cell : Cell} (h : cell.IsPlain) : ofJson cell.toJson = cell := by
  induction h with
  | null => rfl
  | boolean value => rfl
  | whole value => rfl
  | float h => rw [toJson, floatJson, if_pos h, ofJson]
  | text value => rfl
  | list _ ih =>
    rw [toJson, ofJson, itemsToJson_eq_map, itemsOfJson_eq_map, List.map_map]
    exact congrArg Cell.list ((List.map_congr_left ih).trans (List.map_id _))
  | @row cells hnames _ ih =>
    have hincrease : NamesIncrease (cellsToJson cells) := by
      rw [cellsToJson_eq_map]
      exact List.pairwise_map.mpr hnames
    have hcells : cellsOfJson (cellsToJson cells) = cells := by
      rw [cellsToJson_eq_map, cellsOfJson_eq_map, List.map_map]
      refine (List.map_congr_left (g := id) ?_).trans (List.map_id _)
      exact fun cell hcell => Prod.ext rfl (ih cell hcell)
    rw [toJson, Json.ofMembers_of_namesIncrease hincrease, ofJson, hcells]

/-- The document of a cell is its normal form: a second conversion changes nothing. A cell comes
back from its document if and only if it is plain, and a document from its cell likewise. -/
theorem ofJson_toJson_eq_self_iff :
    (∀ cell : Cell, (ofJson cell.toJson).toJson = cell.toJson ∧
      (ofJson cell.toJson = cell ↔ cell.IsPlain)) ∧
    ∀ json : Json, (ofJson json).toJson = json ↔ json.IsPlain := by
  refine ⟨?_, ?_⟩
  · intro cell
    refine ⟨toJson_ofJson (isPlain_toJson cell), ?_, ofJson_toJson⟩
    intro h
    rw [← h]
    exact isPlain_ofJson (isPlain_toJson cell)
  · intro json
    refine ⟨?_, toJson_ofJson⟩
    intro h
    rw [← h]
    exact isPlain_toJson (ofJson json)

end Cell

end RowRecipe
