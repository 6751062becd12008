import RowRecipe.Expression.Failure

/-!
# Stretches of lists

Functions on texts, arrays and bytes take a stretch by where it starts and how long it is, or by a
range. A start is counted from the end if it is negative, and a stretch never goes beyond the end.
-/
namespace RowRecipe.Expression

/-- A part of a list: how many items stand in front of it, and how many are in it. -/
structure Stretch where
  start : Nat
  length : Nat

namespace Stretch

/-- The stretch of a list of some size from a start on, with so many items at most. -/
def of (size : Nat) (start count : Int) : Stretch :=
  let from' := if start < 0 then size - start.natAbs else start.natAbs
  if 0 ≤ start ∧ size ≤ from' then ⟨size, 0⟩
  else ⟨from', min count.toNat (size - from')⟩

/-- The start and length that a range asks for. -/
def ofRange (closed : Bool) (first last : Int64) : Int × Int :=
  let start := max first.toInt 0
  let stop := max last.toInt start
  (start, if closed then stop - start + 1 else stop - start)

/-- The start and length that arguments ask for, if they do. -/
def asked? : List Value → Option (Int × Int)
  | [.whole start, .whole count] => some (start.toInt, count.toInt)
  | [.range closed first last] => some (ofRange closed first last)
  | _ => none

/-- The start and length that arguments ask for, the length being without bound if it is missing. -/
def askedFrom? : List Value → Option (Int × Int)
  | [.whole start] => some (start.toInt, maxWhole)
  | arguments => asked? arguments

variable {α : Type}

/-- The items of a stretch. -/
def take (stretch : Stretch) (items : List α) : List α :=
  (items.drop stretch.start).take stretch.length

/-- The items outside a stretch. -/
def leave (stretch : Stretch) (items : List α) : List α :=
  items.take stretch.start ++ items.drop (stretch.start + stretch.length)

/-- Puts items in the place of a stretch. -/
def replace (stretch : Stretch) (new items : List α) : List α :=
  items.take stretch.start ++ new ++ items.drop (stretch.start + stretch.length)

end Stretch

/-- The items of a list without the last ones beyond a length. -/
def truncated {α : Type} (length : Int) (items : List α) : List α :=
  items.take length.toNat

/-- The last items of a list up to a length. -/
def chopped {α : Type} (length : Int) (items : List α) : List α :=
  items.drop (items.length - length.toNat)

def padded {α : Type} (length : Int) (item : α) (items : List α) : List α :=
  items ++ List.replicate (length.toNat - items.length) item

/-- The place in a list that an index means, from the end if it is negative. -/
def place? (size : Nat) (index : Int) : Option Nat :=
  let place := if index < 0 then index + size else index
  if 0 ≤ place ∧ place < size then some place.toNat else none

/-- A list with an item put in at a place, or at the end. -/
def inserted {α : Type} (index : Int) (item : α) (items : List α) : List α :=
  let start := (Stretch.of items.length index 0).start
  items.take start ++ item :: items.drop start

/-- A list cut at a place: what stays, and what is cut off. -/
def cutAt {α : Type} (start : Int) (items : List α) : List α × List α :=
  items.splitAt (Stretch.of items.length start 0).start

/-- The result of a function. -/
abbrev Outcome := Except Cause Value

/-- The result of a function that changes its first argument, and that argument afterwards. -/
abbrev Change := Except Cause (Value × Value)

/-- A change without a result. -/
def changed (value : Value) : Option Change :=
  some (.ok (.null, value))

def wholeValue (n : Int) : Value :=
  .whole (Int64.ofInt n)

end RowRecipe.Expression
