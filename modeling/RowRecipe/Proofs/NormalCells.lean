import RowRecipe.Expression.Value
import RowRecipe.Proofs.Entries

/-!
# Normal cells

An expression computes with values of its own, and what it gives is a cell again. On the way dates
become their texts, and a row keeps the first cell of each name and has its names sorted. A cell
that went this way is normal, and a normal cell comes back as it was.

Main statements: `Cell.toCell_ofCell`, `Cell.normal_eq_self_iff`.
-/
namespace RowRecipe

namespace Cell

/-- Induction on what is nested in a cell. -/
@[elab_as_elim]
theorem inductionOn {motive : Cell → Prop} (cell : Cell) (null : motive .null)
    (boolean : ∀ value, motive (.boolean value)) (whole : ∀ value, motive (.whole value))
    (float : ∀ value, motive (.float value)) (text : ∀ value, motive (.text value))
    (date : ∀ value, motive (.date value)) (bytes : ∀ value, motive (.bytes value))
    (list : ∀ items, (∀ item ∈ items, motive item) → motive (.list items))
    (row : ∀ cells : Row, (∀ cell ∈ cells, motive cell.2) → motive (.row cells)) : motive cell :=
  @Cell.rec motive (fun items => ∀ item ∈ items, motive item)
    (fun cells => ∀ cell ∈ cells, motive cell.2) (fun cell => motive cell.2)
    null boolean whole float text date bytes list row
    (List.forall_mem_nil _) (fun _ _ hitem hitems => List.forall_mem_cons.mpr ⟨hitem, hitems⟩)
    (List.forall_mem_nil _) (fun _ _ hcell hcells => List.forall_mem_cons.mpr ⟨hcell, hcells⟩)
    (fun _ _ hvalue => hvalue) cell

/-! ### The normal form -/

mutual

/-- A cell with the texts of its dates, and with sorted rows in which the first cell with a name
stands for all of them. -/
def normal : Cell → Cell
  | .date value => .text value.text
  | .list items => .list (normalItems items)
  | .row cells => .row (sortedFirsts (normalCells cells))
  | cell => cell

def normalItems : List Cell → List Cell
  | [] => []
  | item :: items => item.normal :: normalItems items

def normalCells : List (String × Cell) → List (String × Cell)
  | [] => []
  | (name, value) :: cells => (name, value.normal) :: normalCells cells

end

/-- A cell with no date at any depth and with increasing names in all its rows. -/
inductive IsNormal : Cell → Prop
  | null : IsNormal .null
  | boolean (value : Bool) : IsNormal (.boolean value)
  | whole (value : Int64) : IsNormal (.whole value)
  | float (value : Float) : IsNormal (.float value)
  | text (value : String) : IsNormal (.text value)
  | bytes (value : List UInt8) : IsNormal (.bytes value)
  | list {items : List Cell} (h : ∀ item ∈ items, item.IsNormal) : IsNormal (.list items)
  | row {cells : Row} (hnames : NamesIncrease cells) (h : ∀ cell ∈ cells, cell.2.IsNormal) :
      IsNormal (.row cells)

theorem normalItems_eq_map (items : List Cell) : normalItems items = items.map normal := by
  induction items with
  | nil => rfl
  | cons item items ih => rw [normalItems, ih, List.map_cons]

theorem normalCells_eq_map (cells : Row) :
    normalCells cells = cells.map fun cell => (cell.1, cell.2.normal) := by
  induction cells with
  | nil => rfl
  | cons cell cells ih => rw [normalCells, ih, List.map_cons]

theorem isNormal_normal (cell : Cell) : cell.normal.IsNormal := by
  induction cell using inductionOn with
  | null => exact .null
  | boolean value => exact .boolean value
  | whole value => exact .whole value
  | float value => exact .float value
  | text value => exact .text value
  | date value => exact .text value.text
  | bytes value => exact .bytes value
  | list items ih =>
    rw [normal, normalItems_eq_map]
    exact .list (List.forall_mem_map.mpr ih)
  | row cells ih =>
    rw [normal, normalCells_eq_map, sortedFirsts_map]
    apply IsNormal.row
    · rw [← sortedFirsts_map]
      exact namesIncrease_sortedFirsts _
    · rw [List.forall_mem_map]
      intro cell hcell
      exact ih cell (mem_of_mem_sortedFirsts hcell)

theorem normal_of_isNormal {cell : Cell} (h : cell.IsNormal) : cell.normal = cell := by
  induction h with
  | null => rfl
  | boolean value => rfl
  | whole value => rfl
  | float value => rfl
  | text value => rfl
  | bytes value => rfl
  | list _ ih =>
    rw [normal, normalItems_eq_map]
    exact congrArg Cell.list ((List.map_congr_left ih).trans (List.map_id _))
  | @row cells hnames _ ih =>
    have hcells : normalCells cells = cells := by
      rw [normalCells_eq_map]
      apply (List.map_congr_left _).trans (List.map_id _)
      intro cell hcell
      exact Prod.ext rfl (ih cell hcell)
    rw [normal, hcells, sortedFirsts_of_namesIncrease hnames]

theorem normal_normal (cell : Cell) : cell.normal.normal = cell.normal :=
  normal_of_isNormal cell.isNormal_normal

theorem normal_eq_self_iff {cell : Cell} : cell.normal = cell ↔ cell.IsNormal := by
  constructor
  · intro h
    rw [← h]
    exact cell.isNormal_normal
  · exact normal_of_isNormal

end Cell

/-! ### Values and back -/

namespace Expression.Value

theorem ofItems_eq_map (items : List Cell) : ofItems items = items.map ofCell := by
  induction items with
  | nil => rfl
  | cons item items ih => rw [ofItems, ih, List.map_cons]

theorem toItems_eq_map (items : List Value) : toItems items = items.map toCell := by
  induction items with
  | nil => rfl
  | cons item items ih => rw [toItems, ih, List.map_cons]

theorem toCells_eq_map (members : List (String × Value)) :
    toCells members = members.map fun member => (member.1, member.2.toCell) := by
  induction members with
  | nil => rfl
  | cons member members ih => rw [toCells, ih, List.map_cons]

/-- The first cell with a name is the one that is put in last. -/
theorem ofCells_eq_sortedFirsts (cells : Row) :
    ofCells cells = (sortedFirsts cells).map fun cell => (cell.1, ofCell cell.2) := by
  rw [← sortedFirsts_map, ← entries_ofFirsts]
  induction cells with
  | nil => rfl
  | cons cell cells ih =>
    rw [ofCells, ih]
    rfl

end Expression.Value

open Expression (Value)

/-- What comes back of a cell is its normal form. -/
theorem Cell.toCell_ofCell (cell : Cell) : (Value.ofCell cell).toCell = cell.normal := by
  induction cell using inductionOn with
  | null => rfl
  | boolean value => rfl
  | whole value => rfl
  | float value => rfl
  | text value => rfl
  | date value => rfl
  | bytes value => rfl
  | list items ih =>
    rw [Value.ofCell, Value.toCell, normal, Value.ofItems_eq_map, Value.toItems_eq_map,
      normalItems_eq_map, List.map_map]
    exact congrArg Cell.list (List.map_congr_left ih)
  | row cells ih =>
    rw [Value.ofCell, Value.toCell, normal, Value.ofCells_eq_sortedFirsts, Value.toCells_eq_map,
      normalCells_eq_map, sortedFirsts_map, List.map_map]
    apply congrArg Cell.row
    apply List.map_congr_left
    intro cell hcell
    exact Prod.ext rfl (ih cell (mem_of_mem_sortedFirsts hcell))

end RowRecipe
