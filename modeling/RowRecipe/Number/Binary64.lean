import RowRecipe.Number.Range

/-!
# Binary floating-point numbers, exactly

A finite float is a signed whole number of units, the unit being a power of two. All that must be
exact is said of these two numbers: the nearest float to a ratio, the whole number a float
truncates to, and the remainder of a division. Nothing here rounds but `nearest`.
-/
namespace RowRecipe.Binary64

/-- A finite float: a sign and a number of units of `2 ^ exponent`. -/
structure Parts where
  negative : Bool
  units : Nat
  exponent : Int
  deriving Repr, DecidableEq

def minExponent : Int := -1074

def infinityBits : Nat := 2047 * Nat.pow 2 52

def signBit (negative : Bool) : Nat :=
  if negative then Nat.pow 2 63 else 0

/-- The sign and units of a float; infinities and what is not a number have none. -/
def parts? (x : Float) : Option Parts :=
  let bits := x.toBits.toNat
  let negative := bits / Nat.pow 2 63 == 1
  let field : Nat := bits / Nat.pow 2 52 % 2048
  let fraction : Nat := bits % Nat.pow 2 52
  if field = 2047 then none
  else if field = 0 then some ⟨negative, fraction, minExponent⟩
  else some ⟨negative, Nat.pow 2 52 + fraction, (field : Int) - 1075⟩

/-- The quotient of two numbers rounded to the nearest number, a half going to the even one. -/
def roundDiv (num den : Nat) : Nat :=
  let quotient := num / den
  let double := 2 * (num % den)
  if double < den then quotient
  else if den < double then quotient + 1
  else quotient + quotient % 2

/-- The number of units of `2 ^ exponent` in a ratio, rounded. -/
def unitsOf (num den : Nat) (exponent : Int) : Nat :=
  if 0 ≤ exponent then roundDiv num (den * Nat.pow 2 exponent.toNat)
  else roundDiv (num * Nat.pow 2 (-exponent).toNat) den

/-- Whether a ratio is below `2 ^ exponent`. -/
def isBelowPower (num den : Nat) (exponent : Int) : Bool :=
  if 0 ≤ exponent then num < den * Nat.pow 2 exponent.toNat
  else num * Nat.pow 2 (-exponent).toNat < den

/-- The exponent at which a positive ratio has 53 binary digits, or the smallest one. -/
def exponentOf (num den : Nat) : Int :=
  let size : Int := num.log2 - den.log2
  max (if isBelowPower num den size then size - 53 else size - 52) minExponent

/-- The bits of the float nearest to a ratio that is not negative. -/
def nearestBits (num den : Nat) : Nat :=
  if num = 0 then 0
  else
    let exponent := exponentOf num den
    min ((exponent - minExponent).toNat * Nat.pow 2 52 + unitsOf num den exponent) infinityBits

/-- The float nearest to a signed ratio, of two equally near ones the one with even units, and
infinity past the largest float. -/
def nearest (negative : Bool) (num den : Nat) : Float :=
  Float.ofBits (UInt64.ofNat (signBit negative + nearestBits num den))

def ofInt (n : Int) : Float :=
  nearest (n < 0) n.natAbs 1

/-- Signed infinity. -/
def infinity (negative : Bool) : Float :=
  Float.ofBits (UInt64.ofNat (signBit negative + infinityBits))

def notANumber : Float :=
  Float.ofBits (UInt64.ofNat (infinityBits + Nat.pow 2 51))

/-- The float with a given sign and units, rounded if it has too many digits. -/
def ofParts (parts : Parts) : Float :=
  if 0 ≤ parts.exponent then nearest parts.negative (parts.units * Nat.pow 2 parts.exponent.toNat) 1
  else nearest parts.negative parts.units (Nat.pow 2 (-parts.exponent).toNat)

namespace Parts

/-- The integer nearest on the side of zero. -/
def truncate (parts : Parts) : Int :=
  let size :=
    if 0 ≤ parts.exponent then parts.units * Nat.pow 2 parts.exponent.toNat
    else parts.units / Nat.pow 2 (-parts.exponent).toNat
  if parts.negative then -(size : Int) else size

/-- Whether nothing is lost by truncating. -/
def isWhole (parts : Parts) : Bool :=
  0 ≤ parts.exponent || parts.units % Nat.pow 2 (-parts.exponent).toNat == 0

/-- The largest whole number of times that `2 ^ power` times the value contains one, for a value
that is not negative. -/
def scaledFloor (parts : Parts) (power : Nat) : Nat :=
  if 0 ≤ parts.exponent + power then parts.units * Nat.pow 2 (parts.exponent + power).toNat
  else parts.units / Nat.pow 2 (-(parts.exponent + power)).toNat

/-- Whether the size of a value is at most some number. -/
def isAtMost (parts : Parts) (limit : Nat) : Bool :=
  if 0 ≤ parts.exponent then parts.units * Nat.pow 2 parts.exponent.toNat ≤ limit
  else parts.units ≤ limit * Nat.pow 2 (-parts.exponent).toNat

/-- The number of units of `2 ^ exponent`, for an exponent that is not larger than its own. -/
def unitsAt (parts : Parts) (exponent : Int) : Nat :=
  parts.units * Nat.pow 2 (parts.exponent - exponent).toNat

end Parts

/-- The whole number that a float truncates to, if it fits. -/
def truncated? (x : Float) : Option Int64 :=
  (parts? x).bind fun parts => whole? parts.truncate

/-- The float nearest to a hundredth of a finite float that is not negative. -/
def hundredth (x : Float) : Float :=
  match parts? x with
  | none => notANumber
  | some parts =>
    if 0 ≤ parts.exponent then nearest false (parts.units * Nat.pow 2 parts.exponent.toNat) 100
    else nearest false parts.units (100 * Nat.pow 2 (-parts.exponent).toNat)

def isWhole (x : Float) : Bool :=
  match parts? x with
  | some parts => parts.isWhole
  | none => false

def isFinite (x : Float) : Bool :=
  (parts? x).isSome

/-- The exact remainder of a division that truncates; it has the sign of the dividend. -/
def remainder (x y : Float) : Float :=
  match parts? x, parts? y with
  | some dividend, some divisor =>
    if divisor.units = 0 then notANumber
    else
      let exponent := min dividend.exponent divisor.exponent
      ofParts ⟨dividend.negative, dividend.unitsAt exponent % divisor.unitsAt exponent, exponent⟩
  | some _, none => if y.isNaN then y else x
  | none, _ => notANumber

end RowRecipe.Binary64
