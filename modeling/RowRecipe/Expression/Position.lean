import RowRecipe.Number.Layout

/-!
# Places in the text of an expression

What goes wrong with an expression is told together with its place, unless it has none.
-/
namespace RowRecipe.Expression

/-- A place in a text; lines and columns count from one. -/
structure Position where
  line : Nat
  column : Nat
  deriving Repr, DecidableEq

namespace Position

def start : Position := ⟨1, 1⟩

/-- The place of what stands nowhere in the text. -/
def nowhere : Position := ⟨0, 0⟩

/-- The place in the same line so many characters further on. -/
def along (position : Position) (count : Nat) : Position :=
  ⟨position.line, position.column + count⟩

/-- The place one character further back in the same line. -/
def back (position : Position) : Position :=
  ⟨position.line, position.column - 1⟩

/-- The place where the next line begins. -/
def nextLine (position : Position) : Position :=
  ⟨position.line + 1, 1⟩

def after (position : Position) (c : Char) : Position :=
  if c = '\n' then position.nextLine else position.along 1

/-- What an error message says of a place. -/
def suffix (position : Position) : String :=
  if position = nowhere then ""
  else " (line " ++ integerText position.line ++ ", position " ++ integerText position.column ++ ")"

end Position

end RowRecipe.Expression
