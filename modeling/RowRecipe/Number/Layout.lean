import RowRecipe.Number.Shortest

/-!
# Writing numbers

A whole number is written with its decimal digits. How the shortest decimal of a float is laid out
differs between the places that write one; each place has its own layout, and one function lays
out for all of them.
-/
namespace RowRecipe

/-- The decimal digits of an integer, after a minus sign if it is negative. -/
def integerChars (n : Int) : List Char :=
  if n < 0 then '-' :: Nat.toDigits 10 n.natAbs else Nat.toDigits 10 n.natAbs

def integerText (n : Int) : String :=
  String.ofList (integerChars n)

/-- How floats are written. -/
structure FloatLayout where
  /-- Which of two equally near shortest decimals is written. -/
  tie : Decimal.Tie
  /-- Whether a decimal is written without an exponent. -/
  isPositional : Decimal → Bool
  /-- Whether a whole float written without an exponent gets a point and a zero. -/
  pointZero : Bool
  /-- Whether an exponent that is not negative gets a plus sign. -/
  plusExponent : Bool
  /-- Whether negative zero gets its sign. -/
  signedZero : Bool

namespace FloatLayout

/-- Digits with the point in place. -/
def positional (layout : FloatLayout) (decimal : Decimal) : List Char :=
  let digits := decimal.digitChars
  if 0 ≤ decimal.exponent then
    digits ++ List.replicate decimal.exponent.toNat '0'
      ++ (if layout.pointZero then ['.', '0'] else [])
  else
    let places := (-decimal.exponent).toNat
    if digits.length ≤ places then
      '0' :: '.' :: (List.replicate (places - digits.length) '0' ++ digits)
    else
      digits.take (digits.length - places) ++ '.' :: digits.drop (digits.length - places)

/-- Digits with one before the point, and the power of ten. -/
def scientific (layout : FloatLayout) (decimal : Decimal) : List Char :=
  let mantissa := match decimal.digitChars with
    | first :: second :: rest => first :: '.' :: second :: rest
    | digits => digits
  let plus := if layout.plusExponent && 0 ≤ decimal.leading then ['+'] else []
  mantissa ++ 'e' :: (plus ++ integerChars decimal.leading)

def chars (layout : FloatLayout) (x : Float) : List Char :=
  match Binary64.parts? x with
  | none =>
    if x.isNaN then ['N', 'a', 'N'] else if x < 0 then ['-', 'i', 'n', 'f'] else ['i', 'n', 'f']
  | some parts =>
    if parts.units = 0 then
      (if parts.negative && layout.signedZero then ['-'] else [])
        ++ (if layout.pointZero then ['0', '.', '0'] else ['0'])
    else
      let decimal := Decimal.shortest layout.tie parts.units parts.exponent
      (if parts.negative then ['-'] else [])
        ++ (if layout.isPositional decimal then layout.positional decimal
            else layout.scientific decimal)

def text (layout : FloatLayout) (x : Float) : String :=
  String.ofList (layout.chars x)

/-- The layout of floats in plain text: never an exponent, and no point in whole numbers. -/
def plain : FloatLayout where
  tie := .away
  isPositional := fun _ => true
  pointZero := false
  plusExponent := false
  signedZero := true

end FloatLayout

end RowRecipe
