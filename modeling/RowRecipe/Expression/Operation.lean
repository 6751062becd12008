import RowRecipe.Expression.Failure
import RowRecipe.Text.Utf8

/-!
# Operators on values

Arithmetic on two whole numbers is exact or fails; with a float among the operands it is that of
floats. A text takes in whatever is added to it. Comparing values of different types is allowed and
finds them different, and neither below the other.
-/
namespace RowRecipe.Expression

/-- The integer result of an operator, if it fits. -/
def fitting (operator : Operator) (left right result : Int) : Except Cause Value :=
  match whole? result with
  | some value => .ok (.whole value)
  | none => .error (.arithmetic (.overflow operator left right))

def power (left right : Int) : Except Cause Value :=
  if 4294967295 < right then .error (.arithmetic (.overflow .power left right))
  else if right < 0 then .error (.arithmetic (.negativePower left right))
  else if 64 ≤ right ∧ 2 ≤ left.natAbs then .error (.arithmetic (.overflow .power left right))
  else fitting .power left right (if left = 0 ∨ left = 1 then (if right = 0 then 1 else left)
    else if left = -1 then (if right % 2 = 0 then 1 else -1) else Int.pow left right.toNat)

/-- Bits moved up, or down by a negative count; bits moved out are lost. -/
def shiftLeft (value : Int64) (count : Int) : Int64 :=
  if 0 ≤ count then
    if count < 64 then Int64.ofInt (value.toInt * Int.pow 2 count.toNat) else 0
  else if -count < 64 then Int64.ofInt (value.toInt.fdiv (Int.pow 2 (-count).toNat))
  else if value < 0 then -1 else 0

def wholeArithmetic? (operator : Operator) (left right : Int64) : Option (Except Cause Value) :=
  let a := left.toInt
  let b := right.toInt
  match operator with
  | .add => some (fitting .add a b (a + b))
  | .subtract => some (fitting .subtract a b (a - b))
  | .multiply => some (fitting .multiply a b (a * b))
  | .divide =>
    some (if b = 0 then .error (.arithmetic (.divisionByZero a))
      else fitting .divide a b (a.tdiv b))
  | .modulo =>
    some (if b = 0 ∨ (a = minWhole ∧ b = -1) then .error (.arithmetic (.modulo a b))
      else fitting .modulo a b (a.tmod b))
  | .power => some (power a b)
  | .shiftLeft => some (.ok (.whole (shiftLeft left b)))
  | .shiftRight => some (.ok (.whole (shiftLeft left (-b))))
  | .bitAnd => some (.ok (.whole (left &&& right)))
  | .bitOr => some (.ok (.whole (left ||| right)))
  | .bitXor => some (.ok (.whole (left ^^^ right)))
  | _ => none

def floatArithmetic? (operator : Operator) (left right : Float) : Option Value :=
  match operator with
  | .add => some (.float (left + right))
  | .subtract => some (.float (left - right))
  | .multiply => some (.float (left * right))
  | .divide => some (.float (left / right))
  | .modulo => some (.float (Binary64.remainder left right))
  | .power => some (.float (left ^ right))
  | _ => none

def booleanArithmetic? (operator : Operator) (left right : Bool) : Option Value :=
  match operator with
  | .bitAnd => some (.boolean (left && right))
  | .bitOr => some (.boolean (left || right))
  | .bitXor => some (.boolean (left != right))
  | _ => none

/-- The whole number at an end of a range, null standing for the end of all of them. -/
def rangeEnd? (default : Int64) : Value → Option Int64
  | .whole value => some value
  | .null => some default
  | _ => none

/-- The range between two ends. -/
def rangeBetween? (closed : Bool) (first last : Value) : Option Value := do
  return .range closed (← rangeEnd? 0 first) (← rangeEnd? (Int64.ofInt maxWhole) last)

def textBytes? : Value → Option (List UInt8)
  | .text value => some (Utf8.encode value.toList)
  | .char value => some (Utf8.encodeChar value)
  | _ => none

def seconds? : Value → Option Float
  | .whole value => some (Binary64.ofInt value.toInt)
  | .float value => some value
  | _ => none

/-- What operators do on values that are not both numbers. -/
def joining? (operator : Operator) (left right : Value) : Option Value :=
  match operator, left, right with
  | .add, .text a, .bytes b => some (.text (String.ofList (a.toList ++ Utf8.decodeLenient b)))
  | .add, .bytes a, .text b => some (.text (String.ofList (Utf8.decodeLenient a ++ b.toList)))
  | .add, .text a, b => some (.text (String.ofList (a.toList ++ b.chars)))
  | .add, a, .text b => some (.text (String.ofList (a.chars ++ b.toList)))
  | .add, .char a, .char b => some (.text (String.ofList [a, b]))
  | .add, .array a, .array b => some (.array (a ++ b))
  | .add, .bytes a, .bytes b => some (.bytes (a ++ b))
  | .add, .bytes a, .char b => some (.bytes (a ++ Utf8.encodeChar b))
  | .add, .map a, .map b =>
    some (.map (b.foldl (fun members (name, value) => insertEntry name value members) a))
  | .subtract, .text a, .text b =>
    some (.text (if b.isEmpty then a else String.ofList (Text.replace b.toList [] a.toList)))
  | .subtract, .text a, .char b => some (.text (String.ofList (a.toList.filter (· != b))))
  | .subtract, .moment a, .moment b => some (.float (a - b))
  | .subtract, .moment a, b => (seconds? b).map fun seconds => .moment (a - seconds)
  | .add, .moment a, b => (seconds? b).map fun seconds => .moment (a + seconds)
  | .rangeTo, a, b => rangeBetween? false a b
  | .rangeThrough, a, b => rangeBetween? true a b
  | _, _, _ => none

def arithmetic (operator : Operator) (left right : Value) : Except Cause Value :=
  let result := match left, right with
    | .whole a, .whole b =>
      (wholeArithmetic? operator a b).or ((joining? operator left right).map .ok)
    | .whole a, .float b => (floatArithmetic? operator (Binary64.ofInt a.toInt) b).map .ok
    | .float a, .whole b => (floatArithmetic? operator a (Binary64.ofInt b.toInt)).map .ok
    | .float a, .float b => (floatArithmetic? operator a b).map .ok
    | .boolean a, .boolean b => (booleanArithmetic? operator a b).map .ok
    | a, b => (joining? operator a b).map .ok
  result.getD (.error (unknownFunction operator.symbol [left, right]))

/-- How two values compare. -/
inductive Comparison where
  | ordered (order : Ordering)
  /-- Neither is below the other. -/
  | unordered
  /-- There is no comparing them. -/
  | impossible

namespace Comparison

def ofTexts (a b : String) : Comparison :=
  .ordered (if a < b then .lt else if a = b then .eq else .gt)

/-- Compares whole numbers by size, texts and characters by code points, and false with true. -/
def of : Value → Value → Comparison
  | .whole a, .whole b => .ordered (compare a.toInt b.toInt)
  | .text a, .text b => ofTexts a b
  | .text a, .char b => ofTexts a b.toString
  | .char a, .text b => ofTexts a.toString b
  | .char a, .char b => .ordered (compare a.toNat b.toNat)
  | .boolean a, .boolean b => .ordered (compare a.toNat b.toNat)
  | .array _, .array _ | .map _, .map _ | .bytes _, .bytes _ => .impossible
  | .range .., .range .. | .function .., .function .. => .impossible
  | .moment a, .moment b => .ordered (if a < b then .lt else if a == b then .eq else .gt)
  | .series a, .series b => if a.typeName = b.typeName then .impossible else .unordered
  | _, _ => .unordered

end Comparison

/-- Whether values in some order stand as an operator asks. -/
def Operator.accepts (operator : Operator) (order : Ordering) : Bool :=
  match operator with
  | .less => order == .lt
  | .lessOrEqual => order != .gt
  | .greater => order == .gt
  | .greaterOrEqual => order != .lt
  | _ => false

/-- Two numbers, at least one of them a float, as floats. -/
def floats? : Value → Value → Option (Float × Float)
  | .whole a, .float b => some (Binary64.ofInt a.toInt, b)
  | .float a, .whole b => some (a, Binary64.ofInt b.toInt)
  | .float a, .float b => some (a, b)
  | _, _ => none

/-- Whether two floats stand as an operator asks, small gaps not counting. -/
def Operator.acceptsFloats (operator : Operator) (a b : Float) : Bool :=
  let gap := Value.gap a b
  match operator with
  | .equal => gap.abs ≤ Value.tolerance
  | .notEqual => gap.abs > Value.tolerance
  | .less => -gap > Value.tolerance
  | .lessOrEqual => -gap > -Value.tolerance
  | .greater => gap > Value.tolerance
  | .greaterOrEqual => gap > -Value.tolerance
  | _ => false

/-- Whether two values stand as an operator asks. Series of one type are not compared in any way. -/
def compareValues (operator : Operator) (left right : Value) : Except Cause Bool :=
  match floats? left right with
  | some (a, b) => .ok (operator.acceptsFloats a b)
  | none =>
    match operator, Comparison.of left right, left with
    | operator, .impossible, .series _ => .error (unknownFunction operator.symbol [left, right])
    | .equal, _, _ => .ok (left.equals right)
    | .notEqual, _, _ => .ok (!left.equals right)
    | operator, .ordered order, _ => .ok (operator.accepts order)
    | _, .unordered, _ => .ok false
    | operator, .impossible, _ => .error (unknownFunction operator.symbol [left, right])

/-- Whether a value holds another one: a text a part, an array an item, a map a name, bytes the
lowest byte of a number, a range a number. -/
def holds (container part : Value) : Except Cause Bool :=
  match container, part with
  | .text a, .text b => .ok (Text.find? b.toList a.toList).isSome
  | .text a, .char b => .ok (a.toList.contains b)
  | .array items, part => .ok (items.any fun item => item.equals part)
  | .map members, .text name => .ok (lookupEntry name members).isSome
  | .bytes bytes, .whole value => .ok (bytes.contains (UInt8.ofNat (value.toInt % 256).toNat))
  | .range closed first last, .whole value =>
    .ok (first ≤ value && if closed then value ≤ last else value < last)
  | container, part => .error (unknownFunction "contains" [container, part])

def operate (operator : Operator) (left right : Value) : Except Cause Value :=
  match operator with
  | .equal | .notEqual | .less | .lessOrEqual | .greater | .greaterOrEqual =>
    (compareValues operator left right).map .boolean
  | _ => arithmetic operator left right

def applySign (sign : Sign) (value : Value) : Except Cause Value :=
  match sign, value with
  | .minus, .whole value =>
    match whole? (-value.toInt) with
    | some negated => .ok (.whole negated)
    | none => .error (.arithmetic .negation)
  | .minus, .float value => .ok (.float (-value))
  | .plus, .whole value => .ok (.whole value)
  | .plus, .float value => .ok (.float value)
  | .not, .boolean value => .ok (.boolean (!value))
  | sign, value => .error (unknownFunction sign.symbol [value])

end RowRecipe.Expression
