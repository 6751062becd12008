import RowRecipe.Number.Binary64

/-!
# The shortest decimal of a float

Of the decimals that read back as a given float the one with the fewest digits is written, and of
those the one nearest to the float. The decimals with a given number of places form a grid; the
coarsest grid with a point among the numbers that round to the float gives the fewest digits, and
if a grid has such a point then one of the two points next to the float is one.
-/
namespace RowRecipe

/-- A positive decimal: `digits * 10 ^ exponent`. -/
structure Decimal where
  digits : Nat
  exponent : Int
  deriving Repr, DecidableEq

namespace Decimal

/-- Which of two equally near decimals is taken. -/
inductive Tie where
  /-- The one with an even last digit. -/
  | even
  /-- The one farther from zero. -/
  | away
  deriving Repr, DecidableEq

/-- The numbers that round to a float, as multiples of a quarter of its unit. -/
structure Interval where
  low : Nat
  value : Nat
  high : Nat
  /-- Whether the ends belong to it. -/
  closed : Bool
  /-- The quarter of a unit is `2 ^ exponent`. -/
  exponent : Int

/-- The numbers that round to a float with these units: half a unit to either side, less below a
power of two, where the units change. -/
def interval (units : Nat) (exponent : Int) : Interval where
  low :=
    if units = Nat.pow 2 52 ∧ Binary64.minExponent < exponent then 4 * units - 1
    else 4 * units - 2
  value := 4 * units
  high := 4 * units + 2
  closed := units % 2 == 0
  exponent := exponent - 2

namespace Interval

/-- A number of quarters against a point of a grid, both multiplied up to whole numbers. -/
def scaled (range : Interval) (quarters : Nat) (grid : Int) : Nat :=
  quarters * Nat.pow 2 range.exponent.toNat * Nat.pow 10 (-grid).toNat

/-- The size of one step of a grid in the same multiple. -/
def step (range : Interval) (grid : Int) : Nat :=
  Nat.pow 2 (-range.exponent).toNat * Nat.pow 10 grid.toNat

/-- Whether the point with this many steps lies in the interval. -/
def contains (range : Interval) (grid : Int) (steps : Nat) : Bool :=
  let point := steps * range.step grid
  let low := range.scaled range.low grid
  let high := range.scaled range.high grid
  if range.closed then low ≤ point && point ≤ high else low < point && point < high

/-- The point of a grid that lies in the interval and is nearest to its value. -/
def nearestPoint? (tie : Tie) (range : Interval) (grid : Int) : Option Nat :=
  let below := range.scaled range.value grid / range.step grid
  let double := 2 * (range.scaled range.value grid % range.step grid)
  match range.contains grid below && below != 0, range.contains grid (below + 1) with
  | true, true =>
    if double < range.step grid then some below
    else if range.step grid < double then some (below + 1)
    else match tie with
      | .even => some (below + below % 2)
      | .away => some (below + 1)
  | true, false => some below
  | false, true => some (below + 1)
  | false, false => none

/-- Tries grids from a coarse one on, each ten times as fine as the one before. -/
def search (tie : Tie) (range : Interval) : Nat → Int → Decimal
  | 0, grid => ⟨range.scaled range.value grid / range.step grid, grid⟩
  | tries + 1, grid =>
    match range.nearestPoint? tie grid with
    | some digits => ⟨digits, grid⟩
    | none => search tie range tries (grid - 1)

end Interval

/-- The shortest decimal that reads back as a float with these units, of which there is at least
one. The first grid tried is coarser than the float; seventeen digits are always enough. -/
def shortest (tie : Tie) (units : Nat) (exponent : Int) : Decimal :=
  let top := (units.log2 + 1 + exponent) * 30103 / 100000 + 2
  (interval units exponent).search tie 24 top

def digitChars (decimal : Decimal) : List Char :=
  Nat.toDigits 10 decimal.digits

/-- The exponent of the first digit. -/
def leading (decimal : Decimal) : Int :=
  decimal.exponent + decimal.digitChars.length - 1

end Decimal

end RowRecipe
