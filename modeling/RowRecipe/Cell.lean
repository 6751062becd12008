import RowRecipe.Json.Writer
import RowRecipe.Text.Blank
import RowRecipe.Timestamp

/-!
# Cells

A cell holds one value of a table: a scalar, a list, or a row of named cells. It has a type name,
a text if it is a scalar other than null, and two JSON documents. The plain document has sorted
members and milliseconds in dates; the exact one keeps the cells of a row as they stand, and in
dates as many places as they need.
-/
namespace RowRecipe

inductive Cell where
  | null
  | boolean (value : Bool)
  | whole (value : Int64)
  | float (value : Float)
  | text (value : String)
  | date (value : Timestamp)
  | bytes (value : List UInt8)
  | list (items : List Cell)
  | row (cells : List (String × Cell))
  deriving Inhabited

/-- Named cells in their order; a name may stand more than once. -/
abbrev Row := List (String × Cell)

namespace Cell

def typeName : Cell → String
  | .null => "null"
  | .boolean _ => "boolean"
  | .whole _ => "integer"
  | .float _ => "float"
  | .text _ => "string"
  | .date _ => "date"
  | .bytes _ => "bytes"
  | .list _ => "list"
  | .row _ => "row"

def isNull : Cell → Bool
  | .null => true
  | _ => false

/-- Whether a value is null, or a text with no character but blank ones. -/
def isNullOrBlank : Cell → Bool
  | .null => true
  | .text value => Text.isBlankText value
  | _ => false

def text? : Cell → Option String
  | .text value => some value
  | _ => none

def whole? : Cell → Option Int64
  | .whole value => some value
  | _ => none

/-- The float of a number. -/
def float? : Cell → Option Float
  | .whole value => some (Binary64.ofInt value.toInt)
  | .float value => some value
  | _ => none

def boolean? : Cell → Option Bool
  | .boolean value => some value
  | _ => none

/-- The word of a truth value. -/
def booleanText (value : Bool) : String :=
  if value then "true" else "false"

/-- The text of a scalar other than null. -/
def rendered? : Cell → Option String
  | .text value => some value
  | .whole value => some (integerText value.toInt)
  | .float value => some (FloatLayout.plain.text value)
  | .boolean value => some (booleanText value)
  | .date value => some value.text
  | _ => none

/-- A float as JSON, which has none that is not finite. -/
def floatJson (value : Float) : Json :=
  if Binary64.isFinite value then .float value else .null

def bytesJson (value : List UInt8) : Json :=
  .array (value.map fun byte => .whole (Int64.ofNat byte.toNat))

mutual

/-- The plain document. -/
def toJson : Cell → Json
  | .null => .null
  | .boolean value => .boolean value
  | .whole value => .whole value
  | .float value => floatJson value
  | .text value => .text value
  | .date value => .text value.text
  | .bytes value => bytesJson value
  | .list items => .array (itemsToJson items)
  | .row cells => .ofMembers (cellsToJson cells)

def itemsToJson : List Cell → List Json
  | [] => []
  | item :: items => item.toJson :: itemsToJson items

def cellsToJson : List (String × Cell) → List (String × Json)
  | [] => []
  | (name, value) :: cells => (name, value.toJson) :: cellsToJson cells

end

mutual

def toExactJson : Cell → Json
  | .null => .null
  | .boolean value => .boolean value
  | .whole value => .whole value
  | .float value => floatJson value
  | .text value => .text value
  | .date value => .text value.exactText
  | .bytes value => bytesJson value
  | .list items => .array (itemsToExactJson items)
  | .row cells => .object (cellsToExactJson cells)

def itemsToExactJson : List Cell → List Json
  | [] => []
  | item :: items => item.toExactJson :: itemsToExactJson items

def cellsToExactJson : List (String × Cell) → List (String × Json)
  | [] => []
  | (name, value) :: cells => (name, value.toExactJson) :: cellsToExactJson cells

end

mutual

def ofJson : Json → Cell
  | .null => .null
  | .boolean value => .boolean value
  | .whole value => .whole value
  | .float value => .float value
  | .text value => .text value
  | .array items => .list (itemsOfJson items)
  | .object members => .row (cellsOfJson members)

def itemsOfJson : List Json → List Cell
  | [] => []
  | item :: items => ofJson item :: itemsOfJson items

def cellsOfJson : List (String × Json) → List (String × Cell)
  | [] => []
  | (name, value) :: members => (name, ofJson value) :: cellsOfJson members

end

theorem itemsToJson_eq_map (items : List Cell) : itemsToJson items = items.map toJson := by
  induction items with
  | nil => rfl
  | cons item items ih => rw [itemsToJson, ih, List.map_cons]

theorem cellsToJson_eq_map (cells : List (String × Cell)) :
    cellsToJson cells = cells.map fun cell => (cell.1, cell.2.toJson) := by
  induction cells with
  | nil => rfl
  | cons cell cells ih => rw [cellsToJson, ih, List.map_cons]

theorem itemsOfJson_eq_map (items : List Json) : itemsOfJson items = items.map ofJson := by
  induction items with
  | nil => rfl
  | cons item items ih => rw [itemsOfJson, ih, List.map_cons]

theorem cellsOfJson_eq_map (members : List (String × Json)) :
    cellsOfJson members = members.map fun member => (member.1, ofJson member.2) := by
  induction members with
  | nil => rfl
  | cons member members ih => rw [cellsOfJson, ih, List.map_cons]

/-- The text of a scalar, or the plain document of anything else. -/
def display (cell : Cell) : String :=
  cell.rendered?.getD cell.toJson.compactText

end Cell

end RowRecipe
