import RowRecipe.Recipe.Argument
import RowRecipe.Recipe.Token
import RowRecipe.Recipe.Usage

/-!
# The logical lines of a recipe

Blank lines and comments do not count. A line that ends with the marker goes on in the next line
that counts, and has the number of the line that it begins in. A marker at the end of the recipe has
nothing to go on in.
-/
namespace RowRecipe

/-- How the lines of a recipe are read. -/
structure LineOptions where
  /-- What comments begin with. -/
  commentStarts : List String
  /-- What a line ends with that goes on. -/
  marker : Char
  deriving Repr, DecidableEq

def LineOptions.standard : LineOptions :=
  ⟨["#", "//"], '\\'⟩

structure LogicalLine where
  /-- The number of the physical line that it begins in, from one on. -/
  number : Nat
  text : String
  deriving Repr, DecidableEq

/-- What is wrong with a line. -/
inductive LineProblem where
  | openEnd (marker : Char)
  | token (fault : TokenError)
  | mismatch (pattern : Pattern) (fault : Pattern.Mismatch)
  | argument (fault : ArgumentError)

def LineProblem.message : LineProblem → String
  | .openEnd marker => "line continuation '" ++ marker.toString ++ "' at end of recipe"
  | .token fault => fault.message
  | .mismatch pattern fault => fault.message pattern
  | .argument fault => fault.message

inductive RecipeError where
  | line (source : LogicalLine) (problem : LineProblem)
  | unknownDirective (number : Nat) (name : String)

namespace RecipeError

def number : RecipeError → Nat
  | .line source _ => source.number
  | .unknownDirective number _ => number

def message : RecipeError → String
  | .line source problem =>
    "Line " ++ integerText source.number ++ " '" ++ source.text ++ "': " ++ problem.message
  | .unknownDirective number name =>
    "Line " ++ integerText number ++ ": directive '" ++ name ++ "' not found"

end RecipeError

namespace LineOptions

def isComment (options : LineOptions) (cs : List Char) : Bool :=
  options.commentStarts.any fun start => start.toList.isPrefixOf cs

/-- What a physical line says, and whether it goes on. A line that does not count says nothing. -/
def part? (options : LineOptions) (line : String) : Option (List Char × Bool) :=
  let cs := Text.trimChars line.toList
  if cs = [] ∨ options.isComment cs then none
  else if cs.getLast? = some options.marker then some (Text.dropBlankEnd cs.dropLast, true)
  else some (cs, false)

/-- Joins what two lines say. -/
def joinParts (text part : List Char) : List Char :=
  if part = [] then text else if text = [] then part else text ++ ' ' :: part

/-- The logical lines from a physical line on, with the number and the text of the line that goes on
in it, if there is one. A logical line without text does not count. -/
def linesFrom (options : LineOptions) :
    Nat → Option (Nat × List Char) → List String → Except RecipeError (List LogicalLine)
  | _, none, [] => .ok []
  | _, some (start, text), [] =>
    .error (.line ⟨start, String.ofList text⟩ (.openEnd options.marker))
  | number, pending, line :: lines =>
    match options.part? line with
    | none => options.linesFrom (number + 1) pending lines
    | some (part, goesOn) =>
      let (start, text) := pending.getD (number, [])
      let text := joinParts text part
      if goesOn then options.linesFrom (number + 1) (some (start, text)) lines
      else
        (options.linesFrom (number + 1) none lines).map fun others =>
          if text = [] then others else ⟨start, String.ofList text⟩ :: others

/-- The logical lines of some physical ones. -/
def logicalLines (options : LineOptions) (lines : List String) :
    Except RecipeError (List LogicalLine) :=
  options.linesFrom 1 none lines

end LineOptions

end RowRecipe
