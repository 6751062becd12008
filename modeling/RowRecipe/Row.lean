import RowRecipe.Cell
import RowRecipe.SortedMap

/-!
# Rows

A row is looked up by name and changed by position. Looking a name up finds its first cell.
-/
namespace RowRecipe.Row

/-- The position of the first cell with a name. -/
def find? (row : Row) (name : String) : Option Nat :=
  row.findIdx? fun cell => cell.1 == name

/-- The value of the first cell with a name. -/
def get? (row : Row) (name : String) : Option Cell :=
  lookupEntry name row

def columns (row : Row) : List String :=
  row.map Prod.fst

/-- Puts a cell at the end, whether or not there is one of its name. -/
def add (row : Row) (name : String) (value : Cell) : Row :=
  row ++ [(name, value)]

/-- Gives the first cell with a name a value, or puts one at the end. -/
def put (name : String) (value : Cell) : Row → Row
  | [] => [(name, value)]
  | (first, old) :: rest =>
    if first = name then (first, value) :: rest else (first, old) :: put name value rest

def setAt (row : Row) (position : Nat) (value : Cell) : Row :=
  row.modify position fun cell => (cell.1, value)

def renameAt (row : Row) (position : Nat) (name : String) : Row :=
  row.modify position fun cell => (name, cell.2)

def keep (row : Row) (wanted : String → Bool) : Row :=
  row.filter fun cell => wanted cell.1

def removeAt (row : Row) (position : Nat) : Row :=
  row.eraseIdx position

def withoutNulls (row : Row) : Row :=
  row.filter fun cell => !cell.2.isNull

def toJson (row : Row) : Json :=
  (Cell.row row).toJson

def toExactJson (row : Row) : Json :=
  (Cell.row row).toExactJson

end RowRecipe.Row
