import RowRecipe.Text.CodeSet

/-!
# Machines that read bytes

A machine reads bytes one by one. Bytes fall into classes, and in each state the class of the next
byte tells how to go on: to another state, to the refusal of all that was read, or to certainty.
Between characters the machine is in its first state.
-/
namespace RowRecipe.Encoding

/-- Where a byte leads. -/
inductive Move where
  | to (state : Nat)
  | refuse
  | settle
  deriving Repr, DecidableEq

structure ByteMachine where
  /-- The class of each byte. -/
  classes : Array Nat
  /-- Where the classes of bytes lead, for each state. -/
  moves : Array (Array Move)
  /-- How many bytes a character has that begins with a byte of a class. -/
  lengths : Array Nat

/-- A character that has been read: its length, the byte in front of its last one, unless that is
the first of all, the last byte, and the byte behind it. -/
structure CodedChar where
  length : Nat
  before : Option UInt8
  last : UInt8
  behind : Option UInt8
  deriving Repr, DecidableEq

/-- How reading has ended. -/
inductive Ending where
  | undecided
  | refused
  | settled
  deriving Repr, DecidableEq

namespace ByteMachine

/-- Where a sign in a table leads. -/
def moveOf (c : Char) : Move :=
  if c = 'x' then .refuse else if c = '!' then .settle else .to (Text.hexDigitValue c)

/-- Reads the tables of a machine: stretches of bytes with their classes, a line of signs for each
state, and the lengths of characters. -/
def read (classes : List String) (moves : List String) (lengths : String) : ByteMachine :=
  let shifts := Text.CodeShift.read classes
  { classes := ((List.range 256).map fun byte =>
      ((shifts.find? fun shift => shift.sources.holds byte).map (·.target)).getD 0).toArray
    moves := (moves.map fun line => (line.toList.map moveOf).toArray).toArray
    lengths := (lengths.toList.map Text.hexDigitValue).toArray }

/-- The class of a byte. -/
def classOf (machine : ByteMachine) (byte : UInt8) : Nat :=
  machine.classes.getD byte.toNat 0

/-- Where a byte leads from a state. -/
def move (machine : ByteMachine) (state : Nat) (byte : UInt8) : Move :=
  (machine.moves.getD state #[]).getD (machine.classOf byte) .refuse

/-- Reads characters from a state on: the length of the one under way, the byte in front, and the
characters in front, the last one first. -/
def charsFrom (machine : ByteMachine) (state length : Nat) (before : Option UInt8)
    (found : List CodedChar) : List UInt8 → List CodedChar × Ending
  | [] => (found.reverse, .undecided)
  | byte :: bytes =>
    let length :=
      if state = 0 then machine.lengths.getD (machine.classOf byte) 0 else length
    match machine.move state byte with
    | .refuse => (found.reverse, .refused)
    | .settle => (found.reverse, .settled)
    | .to 0 =>
      charsFrom machine 0 length (some byte) (⟨length, before, byte, bytes.head?⟩ :: found) bytes
    | .to state => charsFrom machine state length (some byte) found bytes

/-- The characters in some bytes, up to a refusal or to certainty. -/
def chars (machine : ByteMachine) (bytes : List UInt8) : List CodedChar × Ending :=
  machine.charsFrom 0 0 none [] bytes

/-- The number of bytes in front of the one that makes a machine certain, from a state and a place
on. -/
def settledFrom? (machine : ByteMachine) (state place : Nat) : List UInt8 → Option Nat
  | [] => none
  | byte :: bytes =>
    match machine.move state byte with
    | .refuse => none
    | .settle => some place
    | .to state => settledFrom? machine state (place + 1) bytes

/-- The number of bytes in front of the one that makes a machine certain. -/
def settledAt? (machine : ByteMachine) (bytes : List UInt8) : Option Nat :=
  machine.settledFrom? 0 0 bytes

end ByteMachine

end RowRecipe.Encoding
