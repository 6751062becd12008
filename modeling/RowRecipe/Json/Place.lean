import RowRecipe.Json.Fault

/-!
# Places in JSON text

Reading goes from place to place. A place is the text that is still to come, with the number of
bytes that are behind it.
-/
namespace RowRecipe.Json

structure Place where
  rest : List Char
  offset : Nat

/-- Reads something from a place on: what it is and the place behind it, or what is wrong. -/
abbrev Reader (α : Type) := Place → Except Fault (α × Place)

/-- The blanks of JSON. -/
def isGap (c : Char) : Bool :=
  c == ' ' || c == '\t' || c == '\n' || c == '\r'

namespace Place

/-- The place at the front of a text. -/
def start (text : String) : Place :=
  ⟨text.toList, 0⟩

/-- The place behind the blanks at the front of a text that begins after so many bytes. -/
def afterGaps : List Char → Nat → Place
  | [], offset => ⟨[], offset⟩
  | c :: cs, offset => if isGap c then afterGaps cs (offset + 1) else ⟨c :: cs, offset⟩

def skip (place : Place) : Place :=
  afterGaps place.rest place.offset

def drop (place : Place) (count : Nat) : Place :=
  ⟨place.rest.drop count, place.offset + count⟩

@[simp]
theorem drop_one_cons (c : Char) (cs : List Char) (offset : Nat) :
    drop ⟨c :: cs, offset⟩ 1 = ⟨cs, offset + 1⟩ :=
  rfl

/-- A fault here. -/
def fail {α : Type} (place : Place) (problem : Problem) : Except Fault α :=
  .error ⟨problem, place.offset⟩

/-- A fault at the first byte that is still to come, which counts as read. -/
def failAhead {α : Type} (place : Place) (problem : Problem) : Except Fault α :=
  .error ⟨problem, if place.rest.isEmpty then place.offset else place.offset + 1⟩

/-- The decimal digits from here on, and the place behind them. -/
def digits (place : Place) : List Char × Place :=
  let (digits, rest) := place.rest.span Char.isDigit
  (digits, ⟨rest, place.offset + digits.length⟩)

end Place

def readLetters : List Char → List Char → Nat → Except Fault Place
  | [], cs, offset => .ok ⟨cs, offset⟩
  | _ :: _, [], offset => .error ⟨.endInValue, offset⟩
  | letter :: letters, c :: cs, offset =>
    if c = letter then readLetters letters cs (offset + 1) else .error ⟨.wordExpected, offset + 1⟩

/-- Reads the rest of a word whose first letter says what it must be. -/
def readWord (letters : List Char) (place : Place) : Except Fault Place :=
  readLetters letters place.rest place.offset

end RowRecipe.Json
