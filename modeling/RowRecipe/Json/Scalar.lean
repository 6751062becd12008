import RowRecipe.Json.Place
import RowRecipe.Number.Reading
import RowRecipe.Text.Utf8

/-!
# Strings and numbers in JSON text

The inside of a string is read up to its closing quote, with its escapes. A number is whole if it is
written without point and exponent and fits in 64 bits; otherwise it is the float that its first
digits, as many as fit in 64 bits, and the powers of ten give.
-/
namespace RowRecipe.Json

def hexValue? (c : Char) : Option Nat :=
  if '0' ≤ c ∧ c ≤ '9' then some (c.toNat - '0'.toNat)
  else if 'a' ≤ c ∧ c ≤ 'f' then some (c.toNat - 'a'.toNat + 10)
  else if 'A' ≤ c ∧ c ≤ 'F' then some (c.toNat - 'A'.toNat + 10)
  else none

/-- The number of four digits of base sixteen. A text with fewer than four bytes left ends too
early, whatever they are. -/
def readHexUnit (cs : List Char) (offset : Nat) : Except Fault Nat :=
  match cs with
  | a :: b :: c :: d :: _ =>
    match hexValue? a, hexValue? b, hexValue? c, hexValue? d with
    | some a, some b, some c, some d => .ok (((a * 16 + b) * 16 + c) * 16 + d)
    | _, _, _, _ => .error ⟨.badEscape, offset + 4⟩
  | _ =>
    if Utf8.width cs < 4 then .error ⟨.endInText, offset + Utf8.width cs⟩
    else .error ⟨.badEscape, offset + 4⟩

/-- What the letter after a backslash stands for, the four digits of a code unit apart. -/
def plainEscape? (c : Char) : Option Char :=
  match c with
  | '"' => some '"'
  | '\\' => some '\\'
  | '/' => some '/'
  | 'b' => some '\x08'
  | 'f' => some '\x0c'
  | 'n' => some '\n'
  | 'r' => some '\r'
  | 't' => some '\t'
  | _ => none

/-- The character of an escaped code unit and the number of characters after the backslash that
write it. The first unit of a pair must be followed by the second, escaped too. -/
def readUnit (cs : List Char) (offset : Nat) : Except Fault (Char × Nat) := do
  let unit ← readHexUnit cs offset
  if unit < 0xD800 ∨ 0xDFFF < unit then return (Char.ofNat unit, 5)
  if 0xDC00 ≤ unit then throw ⟨.loneSurrogate, offset + 4⟩
  match cs.drop 4 with
  | '\\' :: 'u' :: rest =>
    let second ← readHexUnit rest (offset + 6)
    if second < 0xDC00 ∨ 0xDFFF < second then throw ⟨.loneSurrogate, offset + 10⟩
    return (Char.ofNat ((unit - 0xD800) * 1024 + (second - 0xDC00) + 0x10000), 11)
  | [] => throw ⟨.endInText, offset + 4⟩
  | ['\\'] => throw ⟨.endInText, offset + 5⟩
  | '\\' :: _ => throw ⟨.surrogateExpected, offset + 6⟩
  | _ => throw ⟨.surrogateExpected, offset + 5⟩

/-- The character that an escape stands for and the number of characters after the backslash. -/
def readEscape (cs : List Char) (offset : Nat) : Except Fault (Char × Nat) :=
  match cs with
  | [] => .error ⟨.endInText, offset⟩
  | c :: cs =>
    if c = 'u' then readUnit cs (offset + 1)
    else match plainEscape? c with
      | some plain => .ok (plain, 1)
      | none => .error ⟨.badEscape, offset + 1⟩

/-- Reads the inside of a string up to its closing quote; `skip` characters belong to an escape read
before. -/
def readTextFrom : Nat → List Char → Nat → Except Fault (List Char × Place)
  | _, [], offset => .error ⟨.endInText, offset⟩
  | skip + 1, c :: cs, offset => readTextFrom skip cs (offset + c.utf8Size)
  | 0, c :: cs, offset =>
    if c = '"' then .ok ([], ⟨cs, offset + 1⟩)
    else if c = '\\' then
      match readEscape cs (offset + 1) with
      | .error fault => .error fault
      | .ok (escaped, length) =>
        (readTextFrom length cs (offset + 1)).map fun (inside, place) => (escaped :: inside, place)
    else if c.toNat < 0x20 then .error ⟨.controlCharacter, offset + 1⟩
    else
      (readTextFrom 0 cs (offset + c.utf8Size)).map fun (inside, place) => (c :: inside, place)

/-- Reads a string behind its opening quote. -/
def readText : Reader String := fun place =>
  (readTextFrom 0 place.rest place.offset).map fun (inside, place) =>
    (String.ofList inside, place)

inductive Number where
  | whole (value : Int)
  | float (value : Float)

/-- The largest significand that is kept. -/
def maxSignificand : Nat := 18446744073709551615

/-- The largest exponent that is counted. -/
def maxExponent : Nat := 2147483647

/-- Appends digits to a significand while it fits; the number of digits that no longer do. -/
def extendSignificand (significand : Nat) : List Char → Nat × Nat
  | [] => (significand, 0)
  | c :: cs =>
    let longer := significand * 10 + (c.toNat - '0'.toNat)
    if longer ≤ maxSignificand then extendSignificand longer cs else (significand, cs.length + 1)

/-- Multiplies by a power of ten, one rounding for the product and one for each 308 places that the
exponent is below the smallest power; infinite results are none. -/
def scaleByTen : Nat → Float → Int → Option Float
  | 0, x, _ => some x
  | tries + 1, x, exponent =>
    if exponent.natAbs ≤ 308 then
      let power := Binary64.nearest false (Nat.pow 10 exponent.natAbs) 1
      let scaled := if 0 ≤ exponent then x * power else x / power
      if scaled.isInf then none else some scaled
    else if x == 0 then some x
    else if 0 ≤ exponent then none
    else scaleByTen tries (x / Binary64.nearest false (Nat.pow 10 308) 1) (exponent + 308)

/-- The value of a number with no point and no exponent. -/
def wholeNumber (negative : Bool) (value : Nat) : Number :=
  if !negative then .whole value
  else if value = 0 ∨ 9223372036854775808 < value then .float (Binary64.nearest true value 1)
  else .whole (-(value : Int))

/-- The value of a number from its digits before the point, those after it and its exponent, unless
it is beyond all floats. -/
def numberOf? (negative : Bool) (before after : List Char) (exponent : Option Int) :
    Option Number :=
  let (integer, dropped) := extendSignificand 0 before
  if dropped = 0 ∧ after = [] ∧ exponent = none then some (wholeNumber negative integer)
  else
    let (significand, lost) := extendSignificand integer after
    let places : Int := dropped - (after.length - lost : Nat)
    (scaleByTen 5 (Binary64.nearest false significand 1) (places + exponent.getD 0)).map
      fun x => .float (if negative then -x else x)

/-- An exponent: its value and how many of its digits can be counted. -/
structure Exponent where
  value : Int
  counted : Nat

/-- The number of digits up to the first that makes an exponent too large to be counted. -/
def countedDigits (value : Nat) : List Char → Nat
  | [] => 0
  | c :: cs =>
    let value := value * 10 + (c.toNat - '0'.toNat)
    if maxExponent < value then 1 else countedDigits value cs + 1

def readExponent : Reader Exponent := fun place =>
  let (negative, place) := match place.rest with
    | '+' :: _ => (false, place.drop 1)
    | '-' :: _ => (true, place.drop 1)
    | _ => (false, place)
  let (digits, behind) := place.digits
  match digits, place.rest with
  | [], [] => place.fail .endInValue
  | [], _ :: _ => place.failAhead .badNumber
  | digits, _ =>
    let size : Int := digitsValue 0 digits
    .ok (⟨if negative then -size else size, place.offset + countedDigits 0 digits⟩, behind)

/-- Reads the part of a number that begins with a point; it may be missing. -/
def readFraction : Reader (List Char) := fun place =>
  match place.rest with
  | '.' :: _ =>
    let (after, behind) := (place.drop 1).digits
    match after, behind.rest with
    | [], [] => behind.fail .endInValue
    | [], _ :: _ => behind.failAhead .badNumber
    | after, _ => .ok (after, behind)
  | _ => .ok ([], place)

/-- Reads a number after its sign. Its value, unless it is beyond all values, is told by its digits
before the point, those after it and its exponent. -/
def readNumeral {α : Type} (value? : List Char → List Char → Option Int → Option α) :
    Reader α := fun place => do
  let (before, behind) := place.digits
  match before, place.rest with
  | [], [] => place.fail .endInValue
  | [], _ :: _ => place.failAhead .badNumber
  | '0' :: _ :: _, _ => (place.drop 1).failAhead .badNumber
  | before, _ =>
    let (after, place) ← readFraction behind
    match place.rest with
    | 'e' :: _ | 'E' :: _ =>
      let (exponent, place) ← readExponent (place.drop 1)
      match value? before after (some exponent.value) with
      | some number => return (number, place)
      | none =>
        let counted :=
          if maxExponent < exponent.value.natAbs then exponent.counted else place.offset
        throw ⟨.outOfRange, counted⟩
    | _ =>
      match value? before after none with
      | some number => return (number, place)
      | none => place.fail .outOfRange

/-- Reads a number after its sign. -/
def readNumber (negative : Bool) : Reader Number :=
  readNumeral (numberOf? negative)

end RowRecipe.Json
