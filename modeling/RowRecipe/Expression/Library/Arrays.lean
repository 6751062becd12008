import RowRecipe.Expression.Library.Texts
import RowRecipe.Expression.Operation

/-!
# Functions on arrays

An array is sorted only if its items are of one type whose values have an order.
-/
namespace RowRecipe.Expression

/-- How two values of one type are ordered, equal if they cannot be. -/
def sortingOrder (a b : Value) : Ordering :=
  match a, b with
  | .float x, .float y => if x < y then .lt else if y < x then .gt else .eq
  | a, b =>
    match Comparison.of a b with
    | .ordered order => order
    | _ => .eq

/-- Whether the values of the type of a value have an order. -/
def isSortable : Value → Bool
  | .whole _ | .float _ | .char _ | .text _ | .boolean _ | .null => true
  | _ => false

/-- The items of an array in order, equal ones staying as they are. -/
def sorted (falling : Bool) (items : List Value) : Except Cause (List Value) :=
  let types := items.map Value.typeName
  if items.length ≤ 1 then .ok items
  else if types.any (· != types.headD "") then .error (.unsortable none)
  else if !items.all isSortable then
    .error (.unsortable (items.head?.map Value.fullTypeName))
  else
    let wrong := if falling then Ordering.lt else Ordering.gt
    .ok (items.mergeSort fun a b => sortingOrder a b != wrong)

/-- The items of an array without those that equal the one kept in front of them. -/
def withoutRepeats : List Value → List Value
  | [] => []
  | item :: items => item :: go item items
where
  go (kept : Value) : List Value → List Value
    | [] => []
    | item :: items => if kept.equals item then go kept items else item :: go item items

/-- The place of the first item with a property that does not stand in front of a place. -/
def placeOfItem? (start : Int) (holds : Value → Bool) (items : List Value) : Option Nat :=
  let from' := (Stretch.of items.length start 0).start
  ((items.drop from').findIdx? holds).map (· + from')

def arrayFunction? (name : String) (items : List Value) (others : List Value) : Option Outcome :=
  match name, others with
  | "len", [] => some (.ok (countValue items.length))
  | "is_empty", [] => some (.ok (.boolean items.isEmpty))
  | "get", [.whole index] => some (.ok ((itemAt? index.toInt items).getD .null))
  | "order", [] => some ((sorted false items).map .array)
  | "order_desc", [] => some ((sorted true items).map .array)
  | "extract", others => do
    let (start, count) ← Stretch.askedFrom? others
    return .ok (.array ((Stretch.of items.length start count).take items))
  | "index_of", [.function ..] | "index_of", [.function .., _] => none
  | "index_of", [wanted] => some (.ok (placeValue (placeOfItem? 0 (·.equals wanted) items)))
  | "index_of", [wanted, .whole start] =>
    some (.ok (placeValue (placeOfItem? start.toInt (·.equals wanted) items)))
  | _, _ => none

def arrayChange? (name : String) (items : List Value) (others : List Value) : Option Change :=
  match name, others with
  | "push", [item] => changed (.array (items ++ [item]))
  | "append", [.array more] => changed (.array (items ++ more))
  | "insert", [.whole index, item] => changed (.array (inserted index.toInt item items))
  | "set", [.whole index, item] => changed (.array (setAt index.toInt item items))
  | "pad", [.whole length, item] => changed (.array (padded length.toInt item items))
  | "pop", [] => some (.ok (items.getLast?.getD .null, .array items.dropLast))
  | "shift", [] => some (.ok (items.headD .null, .array items.tail))
  | "remove", [.whole index] =>
    match place? items.length index.toInt with
    | some place => some (.ok (items.getD place .null, .array (items.eraseIdx place)))
    | none => some (.ok (.null, .array items))
  | "clear", [] => changed (.array [])
  | "truncate", [.whole length] => changed (.array (truncated length.toInt items))
  | "chop", [.whole length] => changed (.array (chopped length.toInt items))
  | "reverse", [] => changed (.array items.reverse)
  | "dedup", [] => changed (.array (withoutRepeats items))
  | "sort", [] => some ((sorted false items).map fun items => (.null, .array items))
  | "sort_desc", [] => some ((sorted true items).map fun items => (.null, .array items))
  | "split", [.whole start] =>
    let (stays, cut) := cutAt start.toInt items
    some (.ok (.array cut, .array stays))
  | "splice", [.whole start, .whole count, .array new] =>
    let stretch := Stretch.of items.length start.toInt count.toInt
    changed (.array (stretch.replace new items))
  | "splice", [.range closed first last, .array new] =>
    let (start, count) := Stretch.ofRange closed first last
    changed (.array ((Stretch.of items.length start count).replace new items))
  | "drain", others => do
    let (start, count) ← Stretch.asked? others
    let stretch := Stretch.of items.length start count
    return .ok (.array (stretch.take items), .array (stretch.leave items))
  | "retain", others => do
    let (start, count) ← Stretch.asked? others
    let stretch := Stretch.of items.length start count
    return .ok (.array (stretch.leave items), .array (stretch.take items))
  | _, _ => none

end RowRecipe.Expression
