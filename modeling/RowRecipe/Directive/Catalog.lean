import RowRecipe.Directive.Basic
import RowRecipe.Recipe.Usage

/-!
# The directives that come with the library

An entry of a registry tells how a directive is used and what it is for, and makes the directive out
of its arguments. The entries here are those of the library.
-/
namespace RowRecipe

structure Entry where
  usage : Usage
  description : String
  configure : Arguments → Except ArgumentError Directive

/-- The name that a recipe calls the directive by. -/
def Entry.name (entry : Entry) : String :=
  entry.usage.directive

namespace Arguments

def expression (arguments : Arguments) (name : String) : Except ArgumentError Expression := do
  let source ← arguments.text name
  match Expression.compile source with
  | .ok expression => return expression
  | .error fault => throw (.invalid name fault.message)

def regex (arguments : Arguments) (name : String) : Except ArgumentError Regex := do
  let source ← arguments.text name
  match Regex.compile source with
  | .ok regex => return regex
  | .error fault => throw (.invalid name ((fault.message source)))

/-- An argument that may be missing, read in some way if it is there. -/
def optional {α : Type} (arguments : Arguments) (name : String)
    (read : Arguments → String → Except ArgumentError α) : Except ArgumentError (Option α) :=
  if arguments.values.contains name then (read arguments name).map some else .ok none

def targetType (arguments : Arguments) (name : String) : Except ArgumentError TargetType := do
  let word ← arguments.text name
  match TargetType.parse? word with
  | some target => return target
  | none =>
    throw (.invalid name ("unknown type '" ++ word
      ++ "' (expected string, int, integer, long, float, double, bool or boolean)"))

/-- A text that is not empty. -/
def separator (arguments : Arguments) (name : String) : Except ArgumentError String := do
  let text ← arguments.text name
  if text.isEmpty then throw (.invalid name "separator must not be empty") else return text

/-- Names of columns, at least one. -/
def someColumns (arguments : Arguments) (name : String) :
    Except ArgumentError (List String) := do
  let columns ← arguments.list name
  if columns.isEmpty then throw (.invalid name "at least one column is required")
  else return columns

/-- What a variable is incremented by. -/
def increment (arguments : Arguments) (name : String) : Except ArgumentError Int64 :=
  match arguments.whole name with
  | .ok value => .ok value
  | .error _ => .error (.invalid name "increment must be an integer")

/-- A number from 0 to 100. -/
def percentage (arguments : Arguments) (name : String) : Except ArgumentError Float := do
  let value ← arguments.number name
  if Sampling.isPercentage value then return value
  else throw (.invalid name (FloatLayout.plain.text value ++ " is not between 0 and 100"))

/-- A whole number that is not negative. -/
def seed (arguments : Arguments) (name : String) : Except ArgumentError Nat :=
  match arguments.whole name with
  | .ok value =>
    if 0 ≤ value.toInt then .ok value.toInt.toNat
    else .error (.invalid name "seed must be a non-negative integer")
  | .error _ => .error (.invalid name "seed must be a non-negative integer")

end Arguments

namespace Catalog

/-- The entry of a directive on single rows. -/
def rowEntry (name : String) (declarations : List Declaration) (description : String)
    (configure : Arguments → Except ArgumentError RowDirective) : Entry where
  usage := Usage.declare name declarations
  description := description
  configure := fun arguments => (configure arguments).map fun directive => .builtin (.row directive)

/-- The entry of a directive that changes the texts of a column. -/
def textEntry (name description : String) (change : TextChange) : Entry :=
  rowEntry name [.define "column" .columnName] description fun arguments => do
    return .change (← arguments.text "column") change

def rename : Entry :=
  rowEntry "rename" [.define "old" .columnName, .define "new" .columnName]
    "Renames a column" fun arguments => do
      return .rename (← arguments.text "old") (← arguments.text "new")

def drop : Entry :=
  rowEntry "drop" [.define "columns" .list] "Removes the listed columns" fun arguments => do
    return .drop (← arguments.someColumns "columns")

def keep : Entry :=
  rowEntry "keep" [.define "columns" .list] "Keeps only the listed columns" fun arguments => do
    return .keep (← arguments.list "columns")

def copy : Entry :=
  rowEntry "copy"
    [.define "source" .columnName, .define "destination" .columnName,
      .defineOptional "force" .boolean]
    "Copies a column, overwriting an existing destination only when forced" fun arguments => do
      let source ← arguments.text "source"
      let destination ← arguments.text "destination"
      let force ← arguments.optional "force" Arguments.boolean
      return .copy source destination (force.getD false)

def setColumn : Entry :=
  rowEntry "set-column" [.define "column" .columnName, .define "expression" .text]
    "Sets a column to the result of an expression" fun arguments => do
      return .setColumn (← arguments.text "column") (← arguments.expression "expression")

def fill : Entry :=
  rowEntry "fill-null-or-empty" [.define "column" .columnName, .define "value" .text]
    "Replaces null or blank values with a fixed value" fun arguments => do
      return .fill (← arguments.text "column") (← arguments.text "value")

def setType : Entry :=
  rowEntry "set-type" [.define "column" .columnName, .define "type" .identifier]
    "Converts a column to string, integer, float or boolean" fun arguments => do
      return .setType (← arguments.text "column") (← arguments.targetType "type")

def uppercase : Entry :=
  textEntry "uppercase" "Converts a text column to upper case" .upper

def lowercase : Entry :=
  textEntry "lowercase" "Converts a text column to lower case" .lower

def trim : Entry :=
  textEntry "trim" "Removes leading and trailing whitespace" .trim

def findAndReplace : Entry :=
  rowEntry "find-and-replace"
    [.define "column" .columnName, .define "pattern" .text, .define "replacement" .text]
    "Replaces every regex match in a text column" fun arguments => do
      let column ← arguments.text "column"
      let pattern ← arguments.regex "pattern"
      return .change column (.replace pattern (← arguments.text "replacement"))

def filterRowIfTrue : Entry :=
  rowEntry "filter-row-if-true" [.define "condition" .text]
    "Removes rows where the condition is true" fun arguments => do
      return .filter (← arguments.expression "condition")

def sendToError : Entry :=
  rowEntry "send-to-error" [.define "condition" .text, .defineOptional "message" .text]
    "Sends rows where the condition is true to the error collection" fun arguments => do
      let condition ← arguments.expression "condition"
      return .divert condition (← arguments.optional "message" Arguments.text)

def splitToRows : Entry :=
  rowEntry "split-to-rows" [.define "column" .columnName, .define "separator" .text]
    "Splits a column on a separator, emitting one row per piece" fun arguments => do
      return .split (← arguments.text "column") (← arguments.separator "separator")

def sample : Entry where
  usage := .declare "sample" [.define "percentage" .number, .defineOptional "seed" .number]
  description := "Keeps a random percentage of rows using a seeded generator"
  configure := fun arguments => do
    let percentage ← arguments.percentage "percentage"
    let seed ← arguments.optional "seed" Arguments.seed
    return .builtin (.sample ⟨percentage, seed.getD 0⟩)

def setVariable : Entry where
  usage := .declare "set-variable" [.define "variable" .identifier, .define "expression" .text]
  description :=
    "Evaluates the expression for each row and stores the result in a transient variable"
  configure := fun arguments => do
    let name ← arguments.text "variable"
    return .builtin (.setVariable name (← arguments.expression "expression"))

def incrementVariable : Entry where
  usage := .declare "increment-variable"
    [.define "variable" .identifier, .define "value" .number, .define "condition" .text]
  description := "Increments a transient variable by the given value for each row where the "
    ++ "condition is true"
  configure := fun arguments => do
    let name ← arguments.text "variable"
    let delta ← arguments.increment "value"
    return .builtin (.incrementVariable name delta (← arguments.expression "condition"))

def entries : List Entry :=
  [setVariable, incrementVariable, rename, drop, keep, copy, setColumn, fill, setType, uppercase,
    lowercase, trim, findAndReplace, filterRowIfTrue, sendToError, splitToRows, sample]

end Catalog

end RowRecipe
