import RowRecipe.Cell
import RowRecipe.Recipe.Argument

/-!
# Conversion of cells

A cell is converted to text, to a whole number, to a float or to a truth value, if it has a form of
that type. Null stays null.
-/
namespace RowRecipe

/-- The types that cells are converted to. -/
inductive TargetType where
  | text | whole | float | boolean
  deriving Repr, DecidableEq

namespace TargetType

def name : TargetType → String
  | .text => "string"
  | .whole => "integer"
  | .float => "float"
  | .boolean => "boolean"

/-- The type of a name, in any letter case. -/
def parse? (name : String) : Option TargetType :=
  let name := Text.lower name
  if name = "string" then some .text
  else if name ∈ ["int", "integer", "long"] then some .whole
  else if name ∈ ["float", "double"] then some .float
  else if name ∈ ["bool", "boolean"] then some .boolean
  else none

end TargetType

/-- The whole number that a text spells as one, or as a float without a fraction. -/
def wholeOfText? (cs : List Char) : Option Int64 :=
  match readWhole? cs with
  | some value => some value
  | none => ((readFloat? cs).filter Binary64.isWhole).bind Binary64.truncated?

namespace Cell

def toWhole? : Cell → Option Cell
  | .whole value => some (.whole value)
  | .float value => (Binary64.truncated? value).map .whole
  | .boolean value => some (.whole (if value then 1 else 0))
  | .text value => (wholeOfText? (Text.trimChars value.toList)).map .whole
  | _ => none

def toFloat? : Cell → Option Cell
  | .text value => (readFinite? (Text.trimChars value.toList)).map .float
  | .boolean value => some (.float (Binary64.ofInt (if value then 1 else 0)))
  | other => other.float?.map .float

def toBoolean? : Cell → Option Cell
  | .boolean value => some (.boolean value)
  | .whole value => some (.boolean (value != 0))
  | .text value => (readBoolean? value).map .boolean
  | _ => none

/-- A cell as one of a type. -/
def convert? (target : TargetType) (cell : Cell) : Option Cell :=
  match cell with
  | .null => some .null
  | cell =>
    match target with
    | .text => cell.rendered?.map .text
    | .whole => cell.toWhole?
    | .float => cell.toFloat?
    | .boolean => cell.toBoolean?

end Cell

end RowRecipe
