import RowRecipe.Recipe.Line
import RowRecipe.Registry

/-!
# Recipes

A recipe is read line by line into steps: a directive that a registry knows by the first token of
the line, made out of the arguments that the line has for it. The first line that fails is what a
recipe fails with.
-/
namespace RowRecipe

/-- A directive with the line that it stands in. -/
structure Step where
  name : String
  line : LogicalLine
  arguments : Arguments
  directive : Directive

namespace Registry

def bindEntry (entry : Entry) (line : LogicalLine) (tokens : List String) :
    Except LineProblem (Arguments × Directive) :=
  match entry.usage.pattern.bindings tokens with
  | .error mismatch => .error (.mismatch entry.usage.pattern mismatch)
  | .ok bindings =>
    match entry.usage.bind bindings line.text with
    | .error fault => .error (.argument fault)
    | .ok arguments =>
      match entry.configure arguments with
      | .error fault => .error (.argument fault)
      | .ok directive => .ok (arguments, directive)

def bind (registry : Registry) (line : LogicalLine) : Except RecipeError Step :=
  match tokenize line.text with
  | .error fault => .error (.line line (.token fault))
  | .ok tokens =>
    let name := tokens.headD ""
    match registry.get? name with
    | none => .error (.unknownDirective line.number name)
    | some entry =>
      match bindEntry entry line tokens with
      | .error problem => .error (.line line problem)
      | .ok (arguments, directive) => .ok ⟨name, line, arguments, directive⟩

/-- Reads lines up to the first that fails. -/
def bindAll (registry : Registry) : List LogicalLine → Except RecipeError (List Step)
  | [] => .ok []
  | line :: lines => do
    let step ← registry.bind line
    let steps ← registry.bindAll lines
    return step :: steps

def readLines (registry : Registry) (options : LineOptions) (lines : List String) :
    Except RecipeError (List Step) := do
  registry.bindAll (← options.logicalLines lines)

def readRecipe (registry : Registry) (options : LineOptions) (text : String) :
    Except RecipeError (List Step) :=
  registry.readLines options (Text.lines text)

end Registry

end RowRecipe
