import RowRecipe.Regex.ByteRange
import RowRecipe.Regex.Problem
import RowRecipe.Text.CodeSet
import Std.Data.HashMap

/-!
# How far a program extends

A program over bytes is a number of states, and some states take bytes beside. It is reckoned with
the numbers that its states have, without making them, and a reckoning ends where the program has
become too large. A class of characters needs a state for each range of bytes that its characters
have at a place; states that do the same are shared as far as they are remembered.
-/
namespace RowRecipe.Regex

/-- The way in which a program goes through a text. -/
inductive Direction where
  | forward | backward
  deriving Repr, DecidableEq

/-- A list as it is met with in a direction. -/
def Direction.order {α : Type} (direction : Direction) (items : List α) : List α :=
  match direction with
  | .forward => items
  | .backward => items.reverse

/-- A part of a program: its states, and the bytes that they take beside. -/
structure Extent where
  states : Nat
  beside : Nat
  deriving Repr, DecidableEq

/-- The bytes of a part of a program. -/
def Extent.size (extent : Extent) : Nat :=
  32 * extent.states + extent.beside

/-- A reckoning lets a program grow, and has no result where it grows too large. -/
abbrev Reckoning := StateT Extent Option

/-- Lets a program grow. -/
def grow (extent : Extent) : Reckoning Unit := fun before =>
  let grown : Extent := ⟨before.states + extent.states, before.beside + extent.beside⟩
  if grown.size ≤ maxSize then some ((), grown) else none

/-- Adds a state with so many bytes beside, and gives its number. -/
def addState (beside : Nat) : Reckoning Nat := do
  let number := (← get).states
  grow ⟨1, beside⟩
  return number

/-- The last state of a part. What is connected behind a fork is one more way on. -/
inductive Ending where
  | plain | fork
  deriving Repr, DecidableEq

/-- The bytes that a way on takes in a fork. -/
def waySize : Nat := 4

/-- The bytes that a way on takes where a range of bytes belongs to it. -/
def rangedWaySize : Nat := 8

/-- Connects a part with what follows. -/
def Ending.connect : Ending → Reckoning Unit
  | .plain => return
  | .fork => grow ⟨0, waySize⟩

/-- States that are remembered by what they do. There is room for one in each of a number of slots;
a later state takes the place of an earlier one. -/
abbrev Remembered := Std.HashMap Nat (List Nat × Nat)

/-- The slot, of so many, in which a state is remembered that does something. -/
def slotOf (slotCount : Nat) (doing : List Nat) : Nat :=
  let mixed : UInt64 := doing.foldl (fun mixed n => (mixed ^^^ n.toUInt64) * 0x100000001B3)
    0xCBF29CE484222325
  mixed.toNat % slotCount

/-- The number of a state that does something: of one that is remembered, or of a new one. -/
def sharedState (slotCount beside : Nat) (doing : List Nat) (remembered : Remembered) :
    Reckoning (Nat × Remembered) := do
  let slot := slotOf slotCount doing
  match (remembered[slot]?).filter fun known => known.1 == doing with
  | some (_, number) => return (number, remembered)
  | none =>
    let number ← addState beside
    return (number, remembered.insert slot (doing, number))

/-- The state in front of sequences of ranges of bytes that lead to a last state; they have at most
so many ranges. Sequences that begin with the same range follow each other. -/
def stateBefore (target : Nat) :
    Nat → List (List ByteRange) → Remembered → Reckoning (Nat × Remembered)
  | 0, _, remembered => return (target, remembered)
  | ranges + 1, sequences, remembered => do
    let alike := sequences.splitBy fun left right => left.head? == right.head?
    let (ways, remembered) ← alike.foldlM (fun (ways, remembered) group => do
      let (low, high) := (group.head?.bind List.head?).getD (0, 0)
      let rests := group.map List.tail
      let (next, remembered) ←
        if rests.all List.isEmpty then pure (target, remembered)
        else stateBefore target ranges rests remembered
      return (next :: high :: low :: ways, remembered)) ([], remembered)
    sharedState 10000 (rangedWaySize * alike.length) ways.reverse remembered

/-- Reckons a class that is read forward. Its states are shared by the ways on from them. -/
def reckonForward (sequences : List (List ByteRange)) : Reckoning Unit := do
  let target ← addState 0
  discard <| stateBefore target 4 sequences ∅

/-- Reckons a class that is read backward. Each sequence is a way of a fork, and states are shared
by the range that leads to them and the state in front. -/
def reckonBackward (sequences : List (List ByteRange)) : Reckoning Unit := do
  let _ ← addState 0
  let target ← addState 0
  discard <| sequences.foldlM (fun remembered sequence => do
    let (_, remembered) ← sequence.foldlM (fun (before, remembered) (low, high) =>
      sharedState 1000 0 [before, low, high] remembered) (target, remembered)
    grow ⟨0, waySize⟩
    return remembered) (∅ : Remembered)

/-- Reckons a class. One without other than ASCII characters is a single state with its end. -/
def reckonClass (direction : Direction) (codes : Text.CodeSet) : Reckoning Unit :=
  let ranges := codes.ranges.toList
  if ranges.all fun range => range.2 < 0x80 then grow ⟨2, rangedWaySize * ranges.length⟩
  else
    let sequences := ranges.flatMap byteSequences
    match direction with
    | .forward => reckonForward sequences
    | .backward => reckonBackward sequences

end RowRecipe.Regex
