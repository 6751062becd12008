import RowRecipe.Number.Binary64
import RowRecipe.Number.Range

/-!
# Series

A series is gone through by a loop and is good for nothing else. Numbers a step apart stay in front
of their end; there are none if the steps do not lead towards it.
-/
namespace RowRecipe.Expression

inductive Series where
  /-- So many bits of a whole number, the lowest one first. -/
  | bits (value : Int64) (count : Nat)
  | chars (text : List Char)
  /-- Whole numbers from the first one on, a step apart, in front of the last one. -/
  | wholes (first last step : Int64)
  /-- Floats from the first one on, a step apart, in front of the last one. -/
  | floats (first last step : Float)

namespace Series

/-- The name of the type of a series. -/
def typeName : Series → String
  | .bits .. => "packages::iter_basic::BitRange"
  | .chars _ => "packages::iter_basic::CharsStream"
  | .wholes .. => "packages::iter_basic::StepRange<i64>"
  | .floats .. => "packages::iter_basic::StepRange<f64>"

/-- The name of the type of a series with what it belongs to. -/
def fullTypeName (series : Series) : String :=
  "rhai::" ++ series.typeName

/-- The whole number at a place of a series, if it lies in front of the end and one more step stays
within the range of whole numbers. -/
def wholeAt? (first last step : Int64) (place : Nat) : Option Int64 :=
  let value := first.toInt + step.toInt * place
  let isIn :=
    if 0 < step then first < last && value < last.toInt else last < first && last.toInt < value
  if isIn && (whole? (value + step.toInt)).isSome then whole? value else none

/-- The float that is so many steps behind another one. -/
def floatBehind (first step : Float) : Nat → Float
  | 0 => first
  | place + 1 => floatBehind first step place + step

/-- The float at a place of a series, if it lies in front of the end. -/
def floatAt? (first last step : Float) (place : Nat) : Option Float :=
  let value := floatBehind first step place
  let isIn :=
    if first < last then first + step > first && value < last
    else last < first && first + step < first && last < value
  if isIn then some value else none

end Series

end RowRecipe.Expression
