import RowRecipe.Number.Binary64

/-!
# Random samples

A sample keeps each position of a sequence with a probability of so many per cent. Positions draw
from a generator with a seed: the draw of a position is a fixed 64-bit number, whatever stands at
the position, and it is kept if the number is below a threshold that grows with the probability.
-/
namespace RowRecipe

structure Sampling where
  /-- The percentage, from 0 to 100. -/
  percentage : Float
  seed : Nat

namespace Sampling

/-- Whether a float is from 0 to 100. -/
def isPercentage (x : Float) : Bool :=
  match Binary64.parts? x with
  | none => false
  | some parts => parts.units == 0 || (!parts.negative && parts.isAtMost 100)

/-- The words of a key that a seed is spread over. -/
def keyWords : Nat → UInt64 → List UInt32
  | 0, _ => []
  | count + 1, state =>
    let state := state * 6364136223846793005 + 11634580027462260723
    let word := (((state >>> 18) ^^^ state) >>> 27).toUInt32
    let turn := (state >>> 59).toUInt32
    ((word >>> turn) ||| (word <<< ((32 - turn) % 32))) :: keyWords count state

/-- The key of a seed. -/
def key (seed : Nat) : List UInt32 :=
  keyWords 8 (UInt64.ofNat seed)

def rotateLeft (word count : UInt32) : UInt32 :=
  (word <<< count) ||| (word >>> (32 - count))

/-- Mixes four words of a state. -/
def quarterRound (state : Array UInt32) (a b c d : Nat) : Array UInt32 :=
  let x := state.getD a 0
  let y := state.getD b 0
  let z := state.getD c 0
  let w := state.getD d 0
  let x := x + y
  let w := rotateLeft (w ^^^ x) 16
  let z := z + w
  let y := rotateLeft (y ^^^ z) 12
  let x := x + y
  let w := rotateLeft (w ^^^ x) 8
  let z := z + w
  let y := rotateLeft (y ^^^ z) 7
  (((state.setIfInBounds a x).setIfInBounds b y).setIfInBounds c z).setIfInBounds d w

/-- Mixes the columns and then the diagonals of a state. -/
def doubleRound (state : Array UInt32) : Array UInt32 :=
  let mix := fun (state : Array UInt32) (places : Nat × Nat × Nat × Nat) =>
    quarterRound state places.1 places.2.1 places.2.2.1 places.2.2.2
  [(0, 4, 8, 12), (1, 5, 9, 13), (2, 6, 10, 14), (3, 7, 11, 15),
    (0, 5, 10, 15), (1, 6, 11, 12), (2, 7, 8, 13), (3, 4, 9, 14)].foldl mix state

def doubleRounds : Nat → Array UInt32 → Array UInt32
  | 0, state => state
  | count + 1, state => doubleRounds count (doubleRound state)

/-- The words of the block with a number. -/
def block (key : List UInt32) (number : Nat) : Array UInt32 :=
  let start : Array UInt32 :=
    ([0x61707865, 0x3320646e, 0x79622d32, 0x6b206574] ++ key
      ++ [UInt32.ofNat number, UInt32.ofNat (number / Nat.pow 2 32), 0, 0]).toArray
  Array.zipWith (· + ·) (doubleRounds 6 start) start

/-- The number that a position draws. -/
def draw (key : List UInt32) (position : Nat) : Nat :=
  let words := block key (position / 8)
  let place := 2 * (position % 8)
  (words.getD place 0).toNat + (words.getD (place + 1) 0).toNat * Nat.pow 2 32

/-- The draws below which positions are kept; without a threshold all are kept. -/
def threshold? (percentage : Float) : Option Nat :=
  match Binary64.parts? (Binary64.hundredth percentage) with
  | none => none
  | some parts =>
    let threshold := parts.scaledFloor 64
    if threshold < Nat.pow 2 64 then some threshold else none

def keeps (sampling : Sampling) (position : Nat) : Bool :=
  match threshold? sampling.percentage with
  | none => true
  | some threshold => draw (key sampling.seed) position < threshold

/-- The items at the positions that are kept, from a position on. -/
def selectFrom {α : Type} (sampling : Sampling) (position : Nat) : List α → List α
  | [] => []
  | item :: items =>
    if sampling.keeps position then item :: sampling.selectFrom (position + 1) items
    else sampling.selectFrom (position + 1) items

def select {α : Type} (sampling : Sampling) (items : List α) : List α :=
  sampling.selectFrom 0 items

end Sampling

end RowRecipe
