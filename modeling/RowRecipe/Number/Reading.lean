import RowRecipe.Number.Binary64

/-!
# Reading numbers

A whole number is written as decimal digits, perhaps after a sign. A float may also have a point
and an exponent, and is the float nearest to the decimal it spells; the words for infinity and for
what is not a number are floats in any letter case. Nothing else is a number: no blank, no digit of
another script, no separator.
-/
namespace RowRecipe

/-- The number that a list of decimal digits spells, after the digits already read. -/
def digitsValue (read : Nat) : List Char → Nat
  | [] => read
  | c :: cs => digitsValue (read * 10 + (c.toNat - '0'.toNat)) cs

/-- Takes a sign off: whether it is a minus, and what follows. -/
def takeSign : List Char → Bool × List Char
  | '-' :: cs => (true, cs)
  | '+' :: cs => (false, cs)
  | cs => (false, cs)

/-- The integer that a sign and digits spell. -/
def readInteger? (cs : List Char) : Option Int :=
  let (negative, digits) := takeSign cs
  if digits = [] ∨ !digits.all Char.isDigit then none
  else some (if negative then -(digitsValue 0 digits : Int) else digitsValue 0 digits)

/-- The whole number that a text spells. -/
def readWhole? (cs : List Char) : Option Int64 :=
  (readInteger? cs).bind whole?

/-- The number of decimal digits of a number. -/
def decimalLength (n : Nat) : Nat :=
  (Nat.toDigits 10 n).length

/-- The float nearest to `digits * 10 ^ exponent`. A decimal with more than 309 digits before the
point is infinite, and one with more than 323 zeros after it is nothing. -/
def nearestDecimal (negative : Bool) (digits : Nat) (exponent : Int) : Float :=
  let top := exponent + decimalLength digits
  if digits = 0 ∨ top < -323 then Binary64.nearest negative 0 1
  else if 310 ≤ top then Binary64.infinity negative
  else if 0 ≤ exponent then Binary64.nearest negative (digits * Nat.pow 10 exponent.toNat) 1
  else Binary64.nearest negative digits (Nat.pow 10 (-exponent).toNat)

/-- Reads the exponent of a decimal, which may be missing. -/
def readExponent? : List Char → Option Int
  | [] => some 0
  | c :: cs => if c = 'e' ∨ c = 'E' then readInteger? cs else none

/-- Reads digits, a point and digits, with a digit somewhere, and an exponent. -/
def readDecimal? (negative : Bool) (cs : List Char) : Option Float :=
  let (before, rest) := cs.span Char.isDigit
  let (after, rest) := match rest with
    | '.' :: rest => rest.span Char.isDigit
    | rest => ([], rest)
  if before = [] ∧ after = [] then none
  else (readExponent? rest).map fun exponent =>
    nearestDecimal negative (digitsValue 0 (before ++ after)) (exponent - after.length)

def readFloat? (cs : List Char) : Option Float :=
  let (negative, rest) := takeSign cs
  match rest.map Char.toLower with
  | ['i', 'n', 'f'] | ['i', 'n', 'f', 'i', 'n', 'i', 't', 'y'] => some (Binary64.infinity negative)
  | ['n', 'a', 'n'] => some Binary64.notANumber
  | _ => readDecimal? negative rest

end RowRecipe
