import RowRecipe.Text.Pieces

/-!
# Sets of code points

A set of code points is kept as ranges that are in order and do not touch. Tables write such sets in
base sixteen: `41-5A` is a range, `AA` one code point, and `100-12E/2` every second one of a range.
A mapping of code points lists ranges in the same way, each with what its first member is mapped to.
-/
namespace RowRecipe.Text

/-- The value of a digit of base sixteen, which may be a capital letter. -/
def hexDigitValue (c : Char) : Nat :=
  if c.isDigit then c.toNat - '0'.toNat else c.toNat - 'A'.toNat + 10

/-- The number that digits of base sixteen spell. -/
def hexNumber (digits : List Char) : Nat :=
  digits.foldl (fun read c => read * 16 + hexDigitValue c) 0

/-- A stretch of code points: the first, the last, and the distance between them. -/
structure Stretch where
  first : Nat
  last : Nat
  step : Nat
  deriving Repr, DecidableEq

namespace Stretch

def read (cs : List Char) : Stretch :=
  let (range, step) := cs.span (· != '/')
  let (first, last) := range.span (· != '-')
  ⟨hexNumber first, hexNumber (if last.isEmpty then first else last.tail),
    if step.isEmpty then 1 else hexNumber step.tail⟩

def holds (stretch : Stretch) (code : Nat) : Bool :=
  stretch.first ≤ code && code ≤ stretch.last && (code - stretch.first) % stretch.step == 0

/-- The code points of a stretch. -/
def codes (stretch : Stretch) : List Nat :=
  (List.range ((stretch.last - stretch.first) / stretch.step + 1)).map fun n =>
    stretch.first + n * stretch.step

def ranges (stretch : Stretch) : List (Nat × Nat) :=
  if stretch.step = 1 then [(stretch.first, stretch.last)]
  else stretch.codes.map fun code => (code, code)

end Stretch

/-- The words of lines of a table. -/
def tableWords (lines : List String) : List (List Char) :=
  lines.flatMap fun line => splitAt ' ' line.toList

/-- A set of code points as ranges, each with its first and its last member. -/
structure CodeSet where
  ranges : Array (Nat × Nat)
  deriving Repr, DecidableEq, Inhabited

namespace CodeSet

/-- The largest code point. -/
def maxCode : Nat := 0x10FFFF

def empty : CodeSet := ⟨#[]⟩

def full : CodeSet := ⟨#[(0, maxCode)]⟩

/-- Joins ranges in order of their first members that touch or overlap the range under way. -/
def joinFrom (first last : Nat) : List (Nat × Nat) → List (Nat × Nat)
  | [] => [(first, last)]
  | (start, stop) :: ranges =>
    if start ≤ last + 1 then joinFrom first (max last stop) ranges
    else (first, last) :: joinFrom start stop ranges

def ofRanges (ranges : List (Nat × Nat)) : CodeSet :=
  match ranges.mergeSort fun left right => left.1 ≤ right.1 with
  | [] => empty
  | (first, last) :: ranges => ⟨(joinFrom first last ranges).toArray⟩

def ofCodes (codes : List Nat) : CodeSet :=
  ofRanges (codes.map fun code => (code, code))

def read (lines : List String) : CodeSet :=
  ofRanges ((tableWords lines).flatMap fun word => (Stretch.read word).ranges)

/-- Whether a code point lies in one of the ranges from number `low` to in front of `high`. -/
def holdsBetween (ranges : Array (Nat × Nat)) (code low high : Nat) : Bool :=
  if low < high then
    match ranges[(low + high) / 2]? with
    | none => false
    | some (first, last) =>
      if code < first then holdsBetween ranges code low ((low + high) / 2)
      else if last < code then holdsBetween ranges code ((low + high) / 2 + 1) high
      else true
  else false
termination_by high - low

def holds (set : CodeSet) (code : Nat) : Bool :=
  holdsBetween set.ranges code 0 set.ranges.size

def isEmpty (set : CodeSet) : Bool :=
  set.ranges.isEmpty

def union (left right : CodeSet) : CodeSet :=
  ofRanges (left.ranges.toList ++ right.ranges.toList)

/-- The ranges between ranges, from a code point on. -/
def gapsFrom (start : Nat) : List (Nat × Nat) → List (Nat × Nat)
  | [] => if start ≤ maxCode then [(start, maxCode)] else []
  | (first, last) :: ranges =>
    if start < first then (start, first - 1) :: gapsFrom (last + 1) ranges
    else gapsFrom (last + 1) ranges

def complement (set : CodeSet) : CodeSet :=
  ⟨(gapsFrom 0 set.ranges.toList).toArray⟩

def intersection (left right : CodeSet) : CodeSet :=
  (left.complement.union right.complement).complement

def difference (left right : CodeSet) : CodeSet :=
  left.intersection right.complement

def symmetricDifference (left right : CodeSet) : CodeSet :=
  (left.union right).difference (left.intersection right)

def unions (sets : List CodeSet) : CodeSet :=
  ofRanges (sets.flatMap fun set => set.ranges.toList)

end CodeSet

/-- A stretch of code points, and what its first member is mapped to. -/
structure CodeShift where
  sources : Stretch
  target : Nat
  deriving Repr, DecidableEq

namespace CodeShift

def read (lines : List String) : List CodeShift :=
  (tableWords lines).map fun word =>
    let (sources, target) := word.span (· != ':')
    ⟨Stretch.read sources, hexNumber target.tail⟩

/-- What a code point is mapped to, which is itself if no stretch has it. -/
def image (code : Nat) : List CodeShift → Nat
  | [] => code
  | shift :: shifts =>
    if shift.sources.holds code then shift.target + (code - shift.sources.first)
    else image code shifts

/-- The code points of a stretch, each with what it is mapped to. -/
def pairs (shift : CodeShift) : List (Nat × Nat) :=
  shift.sources.codes.map fun code => (code, shift.target + (code - shift.sources.first))

end CodeShift

end RowRecipe.Text
