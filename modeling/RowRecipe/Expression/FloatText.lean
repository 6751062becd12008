import RowRecipe.Number.Layout

/-!
# Floats as expressions show them

A float by itself and one inside an array or a map are laid out differently.
-/
namespace RowRecipe.Expression

/-- A decimal that is not below another one, both positive. -/
def isAtLeast (a b : Decimal) : Bool :=
  let least := min a.exponent b.exponent
  b.digits * Nat.pow 10 (b.exponent - least).toNat
    ≤ a.digits * Nat.pow 10 (a.exponent - least).toNat

/-- The layout of floats in expressions: a point in every float, and an exponent above about 1e13
and below about 1e-13. -/
def floatLayout : FloatLayout where
  tie := .away
  isPositional := fun decimal =>
    isAtLeast ⟨9999999827968, 0⟩ decimal && isAtLeast decimal ⟨99999998245167, -27⟩
  pointZero := true
  plusExponent := false
  signedZero := false

/-- The layout of floats inside arrays and maps. -/
def innerLayout : FloatLayout where
  tie := .away
  isPositional := fun decimal => -4 ≤ decimal.leading && decimal.leading < 16
  pointZero := true
  plusExponent := false
  signedZero := true

end RowRecipe.Expression
