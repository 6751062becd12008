import RowRecipe.Cell
import RowRecipe.SortedMap

/-!
# Variables of a run

The directives of a run share a store of variables. Incrementing a variable that is missing or null
starts at zero; it fails where the sum does not fit and where the variable is no number, and a
failure leaves the store as it was.
-/
namespace RowRecipe

abbrev Store := SortedMap Cell

inductive StoreError where
  | notNumeric (name found : String)
  | overflow (name : String) (delta : Int64)
  deriving Repr, DecidableEq

def StoreError.message : StoreError → String
  | .notNumeric name found =>
    "Variable '" ++ name ++ "' holds a " ++ found ++ " and cannot be incremented"
  | .overflow name delta =>
    "Incrementing variable '" ++ name ++ "' by " ++ integerText delta.toInt ++ " overflows"

namespace Store

def incremented (name : String) (delta : Int64) : Option Cell → Except StoreError Cell
  | none | some .null => .ok (.whole delta)
  | some (.whole value) =>
    match addWhole? value delta with
    | some sum => .ok (.whole sum)
    | none => .error (.overflow name delta)
  | some (.float value) => .ok (.float (value + Binary64.ofInt delta.toInt))
  | some other => .error (.notNumeric name other.typeName)

def increment (store : Store) (name : String) (delta : Int64) : Except StoreError Store :=
  (incremented name delta (store.get? name)).map (store.insert name)

def toExactJson (store : Store) : Json :=
  (Cell.row store.entries).toExactJson

end Store

end RowRecipe
