import RowRecipe.SortedMap
import RowRecipe.Number.Range

/-!
# JSON documents

A document is a tree whose objects list their members in order, names repeated or not. Its normal
form has the members of every object sorted by name, the last of several with one name standing for
all of them.
-/
namespace RowRecipe

inductive Json where
  | null
  | boolean (value : Bool)
  | whole (value : Int64)
  | float (value : Float)
  | text (value : String)
  | array (items : List Json)
  | object (members : List (String × Json))
  deriving Inhabited

namespace Json

/-- The object of some members, sorted by name, the last with a name winning. -/
def ofMembers (members : List (String × Json)) : Json :=
  .object (SortedMap.ofList members).entries

mutual

/-- Sorts the members of every object, the last with a name winning. -/
def normalize : Json → Json
  | .array items => .array (normalizeItems items)
  | .object members => ofMembers (normalizeMembers members)
  | .null => .null
  | .boolean value => .boolean value
  | .whole value => .whole value
  | .float value => .float value
  | .text value => .text value

def normalizeItems : List Json → List Json
  | [] => []
  | item :: items => item.normalize :: normalizeItems items

def normalizeMembers : List (String × Json) → List (String × Json)
  | [] => []
  | (name, value) :: members => (name, value.normalize) :: normalizeMembers members

end

end Json

end RowRecipe
