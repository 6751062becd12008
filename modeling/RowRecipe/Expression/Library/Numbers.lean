import RowRecipe.Expression.Library.Stretch
import RowRecipe.Text.Blank

/-!
# Functions on numbers

Whole numbers have signs, bits and digits; floats have the functions of analysis. Texts are read as
numbers between blanks.
-/
namespace RowRecipe.Expression

/-- The value of a digit in a base up to thirty-six. -/
def radixDigit? (base : Nat) (c : Char) : Option Nat :=
  let value :=
    if c.isDigit then c.toNat - '0'.toNat
    else if c.isAlpha then c.toLower.toNat - 'a'.toNat + 10
    else base
  if value < base then some value else none

/-- Reads digits behind those already read, stopping at the first one that does not belong. -/
def readDigits (base : Nat) (negative : Bool) (read : Nat) :
    List Char → Except NumberFault Nat
  | [] => .ok read
  | c :: cs =>
    match radixDigit? base c with
    | none => .error .badDigit
    | some digit =>
      let read := read * base + digit
      let limit := if negative then Nat.pow 2 63 else Nat.pow 2 63 - 1
      if limit < read then .error (if negative then .tooSmall else .tooLarge)
      else readDigits base negative read cs

/-- Reads the whole number that characters spell in a base. -/
def readRadix (base : Nat) (cs : List Char) : Except NumberFault Int :=
  match cs with
  | [] => .error .emptyInteger
  | c :: digits =>
    if (c = '+' ∨ c = '-') ∧ digits = [] then .error .badDigit
    else if c = '-' then (readDigits base true 0 digits).map fun size => -(size : Int)
    else if c = '+' then (readDigits base false 0 digits).map Int.ofNat
    else (readDigits base false 0 cs).map Int.ofNat

/-- Reads a whole number between blanks. -/
def parseWhole (text : String) (base : Nat) : Outcome :=
  match readRadix base (Text.trimChars text.toList) with
  | .ok n => .ok (wholeValue n)
  | .error fault => .error (.badInteger text fault)

/-- Reads a float between blanks. -/
def parseFloat (text : String) : Outcome :=
  let cs := Text.trimChars text.toList
  match readFloat? cs with
  | some value => .ok (.float value)
  | none => .error (.badFloat text (if cs = [] then .emptyFloat else .badFloat))

/-- A float without its fraction. -/
def withoutFraction (value : Float) : Float :=
  if value < 0 then value.ceil else value.floor

def truncate (value : Float) : Outcome :=
  if value > Binary64.ofInt maxWhole ∨ value < Binary64.ofInt minWhole then
    .error (.floatTooLarge value)
  else
    match Binary64.parts? value with
    | none => .ok (.whole 0)
    | some parts => .ok (.whole ((whole? parts.truncate).getD (Int64.ofInt maxWhole)))

/-- The place of a bit, counted from the end if it is negative. -/
def bitPlace (index : Int) : Except Cause Nat :=
  let place := if index < 0 then index + 64 else index
  if 0 ≤ place ∧ place < 64 then .ok place.toNat else .error (.bitBounds index)

/-- A whole number as bits. -/
def bitsOf (value : Int64) : Nat :=
  value.toUInt64.toNat

def ofBits (bits : Nat) : Value :=
  .whole (Int64.ofInt bits)

/-- Some bits of a whole number as a number. -/
def getBits (value : Int64) (start count : Int) : Outcome := do
  if count ≤ 0 then return .whole 0
  let place ← bitPlace start
  let size := min count.toNat (64 - place)
  return ofBits (bitsOf value / Nat.pow 2 place % Nat.pow 2 size)

/-- A whole number with some bits set to those of another one. -/
def setBits (value : Int64) (start count : Int) (new : Int64) : Except Cause Value := do
  if count ≤ 0 then return .whole value
  let place ← bitPlace start
  let size := min count.toNat (64 - place)
  let bits := bitsOf value
  let old := bits / Nat.pow 2 place % Nat.pow 2 size
  return ofBits (bits - old * Nat.pow 2 place + bitsOf new % Nat.pow 2 size * Nat.pow 2 place)

/-- Some bits of a whole number one after another. -/
def bitSeries (value : Int64) (start count : Int) : Outcome := do
  let place ← bitPlace start
  return .series (.bits (Int64.ofInt (value.toInt.fdiv (Int.pow 2 place)))
    (min count.toNat (64 - place)))

def wholeSteps (first last step : Int64) : Outcome :=
  if step = 0 then .error (.arithmetic .zeroStep) else .ok (.series (.wholes first last step))

/-- Floats a step apart, which must move the first of them. -/
def floatSteps (first last step : Float) : Outcome :=
  if first + step == first then .error (.arithmetic .zeroStep)
  else .ok (.series (.floats first last step))

def wholeFunction? (name : String) (value : Int64) (others : List Value) : Option Outcome :=
  match others with
  | [] =>
    match name with
    | "abs" =>
      some (match whole? value.toInt.natAbs with
        | some size => .ok (.whole size)
        | none => .error (.arithmetic (.size value.toInt)))
    | "sign" => some (.ok (wholeValue value.toInt.sign))
    | "is_zero" => some (.ok (.boolean (value == 0)))
    | "is_odd" => some (.ok (.boolean (value.toInt % 2 == 1)))
    | "is_even" => some (.ok (.boolean (value.toInt % 2 == 0)))
    | "to_int" => some (.ok (.whole value))
    | "to_float" => some (.ok (.float (Binary64.ofInt value.toInt)))
    | "to_hex" => some (.ok (.text (String.ofList (Nat.toDigits 16 (bitsOf value)))))
    | "to_octal" => some (.ok (.text (String.ofList (Nat.toDigits 8 (bitsOf value)))))
    | "to_binary" => some (.ok (.text (String.ofList (Nat.toDigits 2 (bitsOf value)))))
    | "sleep" => some (.ok .null)
    | "blob" => some (.ok (.bytes (List.replicate value.toInt.toNat 0)))
    | "bits" => some (bitSeries value 0 64)
    | _ => none
  | [.whole other] =>
    match name with
    | "get_bit" =>
      some ((bitPlace other.toInt).map fun place =>
        .boolean (bitsOf value / Nat.pow 2 place % 2 == 1))
    | "range" => some (.ok (.range false value other))
    | "bits" => some (bitSeries value other.toInt maxWhole)
    | "blob" =>
      some (.ok (.bytes (List.replicate value.toInt.toNat (UInt8.ofNat (bitsOf other % 256)))))
    | _ => none
  | others =>
    match name, others with
    | "range", [.whole last, .whole step] => some (wholeSteps value last step)
    | "get_bits", others =>
      (Stretch.asked? others).map fun (start, count) => getBits value start count
    | "bits", others =>
      (Stretch.asked? others).map fun (start, count) => bitSeries value start count
    | _, _ => none

def wholeChange? (name : String) (value : Int64) (others : List Value) : Option Change :=
  match name, others with
  | "set_bit", [.whole index, .boolean bit] =>
    some ((bitPlace index.toInt).bind fun place =>
      (setBits value place 1 (if bit then 1 else 0)).map (.null, ·))
  | "set_bits", [.whole start, .whole count, .whole new] =>
    some ((setBits value start.toInt count.toInt new).map (.null, ·))
  | "set_bits", [.range closed first last, .whole new] =>
    let (start, count) := Stretch.ofRange closed first last
    some ((setBits value start count new).map (.null, ·))
  | _, _ => none

/-- The ratio of the circumference of a circle to its diameter. -/
def pi : Float := 3.141592653589793

/-- The base of the natural logarithm. -/
def e : Float := 2.718281828459045

def analytic? (name : String) (x : Float) : Option Float :=
  match name with
  | "abs" => some x.abs
  | "sin" => some x.sin
  | "cos" => some x.cos
  | "tan" => some x.tan
  | "sinh" => some x.sinh
  | "cosh" => some x.cosh
  | "tanh" => some x.tanh
  | "asin" => some x.asin
  | "acos" => some x.acos
  | "atan" => some x.atan
  | "asinh" => some x.asinh
  | "acosh" => some x.acosh
  | "atanh" => some x.atanh
  | "to_degrees" => some (x * (180 / pi))
  | "to_radians" => some (x * (pi / 180))
  | "sqrt" => some x.sqrt
  | "exp" => some x.exp
  | "ln" => some x.log
  | "log" => some x.log10
  | "floor" => some x.floor
  | "ceiling" => some x.ceil
  | "round" => some x.round
  | "int" => some (withoutFraction x)
  | "fraction" => some (x - withoutFraction x)
  | _ => none

def analyticPair? (name : String) (x y : Float) : Option Float :=
  match name with
  | "hypot" => some (x * x + y * y).sqrt
  | "atan" => some (Float.atan2 x y)
  | "log" => some (x.log / y.log)
  | _ => none

def floatFunction? (name : String) (x : Float) (others : List Value) : Option Outcome :=
  match others with
  | [] =>
    match name with
    | "sign" =>
      some (if x == 0 then .ok (.whole 0)
        else if x.isNaN then .error (.arithmetic .signOfNothing)
        else .ok (.whole (if x < 0 then -1 else 1)))
    | "is_zero" => some (.ok (.boolean (x == 0)))
    | "is_nan" => some (.ok (.boolean x.isNaN))
    | "is_finite" => some (.ok (.boolean x.isFinite))
    | "is_infinite" => some (.ok (.boolean x.isInf))
    | "to_int" => some (truncate x)
    | "sleep" => some (.ok .null)
    | name => (analytic? name x).map fun value => .ok (.float value)
  | [.float y] => (analyticPair? name x y).map fun value => .ok (.float value)
  | [.float last, .float step] => if name = "range" then some (floatSteps x last step) else none
  | _ => none

def numberProperties : Value → List String
  | .whole _ => ["is_zero", "is_odd", "is_even", "bits"]
  | .float _ =>
    ["floor", "ceiling", "round", "int", "fraction", "is_nan", "is_finite", "is_infinite",
      "is_zero"]
  | _ => []

/-- The one of two values that is not exceeded, or does not exceed, by a comparison of the first one
with the second one that holds if they are equal. -/
def extreme? (greatest : Bool) (a b : Value) : Option Value :=
  let pick := fun (x y : Value) (atLeast atMost : Bool) =>
    if (if greatest then atLeast else atMost) then x else y
  match a, b with
  | .whole x, .whole y => some (pick a b (y ≤ x) (x ≤ y))
  | .float x, .float y => some (pick a b (y ≤ x) (x ≤ y))
  | .whole x, .float y =>
    let x := Binary64.ofInt x.toInt
    some (pick (.float x) b (y ≤ x) (x ≤ y))
  | .float x, .whole y =>
    let y := Binary64.ofInt y.toInt
    some (pick a (.float y) (y ≤ x) (x ≤ y))
  | .text x, .text y => some (pick a b (!(x < y)) (!(y < x)))
  | .char x, .char y => some (pick a b (y ≤ x) (x ≤ y))
  | _, _ => none

end RowRecipe.Expression
