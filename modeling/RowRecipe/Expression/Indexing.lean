import RowRecipe.Expression.Library

/-!
# Parts of values at an index

An index is a place in an array, a text, bytes or the bits of a whole number, counted from the end
if it is negative, or the name of a member of a map. A range is an index of a part of a text or of
some bits.
-/
namespace RowRecipe.Expression

/-- What goes wrong with an index, and whether it is the index that is at fault. -/
structure IndexFault where
  cause : Cause
  atIndex : Bool

/-- A fault of an index. -/
def badIndex {α : Type} (cause : Cause) : Except IndexFault α :=
  .error ⟨cause, true⟩

/-- The place of a bit at an end of a range. -/
def bitEnd (place : Int64) : Except IndexFault Nat :=
  if 0 ≤ place.toInt ∧ place.toInt < 64 then .ok place.toInt.toNat
  else badIndex (.bitBounds place.toInt)

/-- The first one of some bits, and how many they are. -/
def bitStretch (closed : Bool) (first last : Int64) : Except IndexFault Stretch := do
  let start ← bitEnd first
  let stop ← bitEnd last
  return ⟨start, stop + (if closed then 1 else 0) - start⟩

/-- The number that some bits are; the highest bit counts as a sign. -/
def bitField (value : Int64) (stretch : Stretch) : Int64 :=
  if stretch.length = 0 then 0
  else if 64 ≤ stretch.start + stretch.length then
    Int64.ofInt (value.toInt.fdiv (Int.pow 2 stretch.start))
  else Int64.ofNat (bitsOf value / Nat.pow 2 stretch.start % Nat.pow 2 stretch.length)

/-- The stretch of a text of some size between the ends of a range. -/
def textStretch (size : Nat) (closed : Bool) (first last : Int64) : Except IndexFault Stretch :=
  let stop :=
    if 0 ≤ last.toInt then last.toInt.toNat else size - last.toInt.natAbs
  let stretch := fun start =>
    ⟨start, if start < stop then stop - start + (if closed then 1 else 0) else 0⟩
  if 0 ≤ first.toInt then .ok (stretch first.toInt.toNat)
  else if size < first.toInt.natAbs then badIndex (.textBounds size first.toInt)
  else .ok (stretch (size - first.toInt.natAbs))

def item (value index : Value) : Except IndexFault Value :=
  match value, index with
  | .array items, .whole index =>
    match (place? items.length index.toInt).bind (items[·]?) with
    | some item => .ok item
    | none => badIndex (.arrayBounds items.length index.toInt)
  | .text text, .whole index =>
    match (place? text.length index.toInt).bind (text.toList[·]?) with
    | some c => .ok (.char c)
    | none => badIndex (.textBounds text.length index.toInt)
  | .text text, .range closed first last =>
    (textStretch text.length closed first last).map fun stretch =>
      textValue (stretch.take text.toList)
  | .bytes bytes, .whole index =>
    match (place? bytes.length index.toInt).bind (bytes[·]?) with
    | some byte => .ok (countValue byte.toNat)
    | none => badIndex (.arrayBounds bytes.length index.toInt)
  | .whole value, .whole index =>
    match place? 64 index.toInt with
    | some place => .ok (.boolean (bitsOf value / Nat.pow 2 place % 2 == 1))
    | none => badIndex (.bitBounds index.toInt)
  | .whole value, .range closed first last =>
    (bitStretch closed first last).map fun stretch => .whole (bitField value stretch)
  | .map members, .text name => .ok ((lookupEntry name members).getD .null)
  | .map _, index => badIndex (.wrongType index.fullTypeName "string")
  | .array _, index | .text _, index | .bytes _, index | .whole _, index =>
    badIndex (.wrongType index.fullTypeName "i64")
  | value, index => .error ⟨.noIndexer value.typeName index.typeName none, false⟩

/-- A value with another part at an index; a map takes in a name that it lacks only if it may
grow. A character goes into a text at the size of its index, even if that is negative. -/
def withItem (value index part : Value) (grows : Bool) : Value :=
  match value, index, part with
  | .array items, .whole index, part =>
    match place? items.length index.toInt with
    | some place => .array (items.set place part)
    | none => value
  | .bytes bytes, .whole index, .whole byte =>
    match place? bytes.length index.toInt with
    | some place => .bytes (bytes.set place (byteOf byte))
    | none => value
  | .text text, .whole index, .char c => textValue (text.toList.set index.toInt.natAbs c)
  | .text text, .range closed first last, .text part =>
    match textStretch text.length closed first last with
    | .ok stretch =>
      if stretch.length = 0 then value else textValue (stretch.replace part.toList text.toList)
    | .error _ => value
  | .whole number, .whole index, .boolean bit =>
    match setBits number index.toInt 1 (if bit then 1 else 0) with
    | .ok changed => changed
    | .error _ => value
  | .whole number, .range closed first last, .whole bits =>
    match bitStretch closed first last with
    | .ok stretch =>
      (setBits number stretch.start stretch.length bits).toOption.getD value
    | .error _ => value
  | .map members, .text name, part =>
    if grows || (lookupEntry name members).isSome then .map (insertEntry name part members)
    else value
  | value, _, _ => value

/-- The type that a part at an index must have, if not any one will do. -/
def partType? (value index : Value) : Option String :=
  match value, index with
  | .text _, .range .. => some "string"
  | .text _, _ => some "char"
  | .bytes _, _ | .whole _, .range .. => some "i64"
  | .whole _, _ => some "bool"
  | _, _ => none

end RowRecipe.Expression
