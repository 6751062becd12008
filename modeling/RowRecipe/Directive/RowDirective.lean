import RowRecipe.Conversion
import RowRecipe.Directive.Outcome
import RowRecipe.Regex

/-!
# Directives on single rows

Most directives look at one row at a time and only read the variables, so a batch fares as its rows
do. Each row gives a list of outcomes, or fails and with it the batch.
-/
namespace RowRecipe

inductive TextChange where
  | upper | lower | trim
  | replace (pattern : Regex) (replacement : String)

def TextChange.apply (change : TextChange) (text : String) : String :=
  match change with
  | .upper => Text.upper text
  | .lower => Text.lower text
  | .trim => Text.trim text
  | .replace pattern replacement => pattern.replaceAll replacement text

namespace Row

/-- The first cell with a name, which must be there: its position and its value. -/
def require (row : Row) (column : String) : Except DirectiveError (Nat × Cell) :=
  match row.find? column, row.get? column with
  | some position, some value => .ok (position, value)
  | _, _ => .error (.missingColumn column)

def renameColumn (row : Row) (old new : String) : Except DirectiveError Row := do
  let (position, _) ← require row old
  match row.find? new with
  | none => return row.renameAt position new
  | some existing =>
    if existing = position then return row.renameAt position new
    else throw (.failed ("Column '" ++ new ++ "' already exists"))

def dropColumns (row : Row) (columns : List String) : Except DirectiveError Row := do
  columns.forM fun column => (require row column).map fun _ => ()
  return row.keep fun name => !columns.contains name

def copyColumn (row : Row) (source destination : String) (force : Bool) :
    Except DirectiveError Row := do
  let (_, value) ← require row source
  if (row.find? destination).isSome ∧ !force then
    throw (.failed
      ("Destination column '" ++ destination ++ "' already exists; use force to overwrite"))
  else return put destination value row

/-- Gives a cell that is null or blank a text. -/
def fillColumn (row : Row) (column value : String) : Row :=
  match row.find? column, row.get? column with
  | some position, some current =>
    if current.isNullOrBlank then row.setAt position (.text value) else row
  | _, _ => row

def convertColumn (row : Row) (column : String) (target : TargetType) :
    Except DirectiveError Row := do
  let (position, value) ← require row column
  match value.convert? target with
  | some converted => return row.setAt position converted
  | none =>
    throw (.typeMismatch column ("cannot convert " ++ value.typeName ++ " '" ++ value.display
      ++ "' to " ++ target.name))

def changeText (row : Row) (column : String) (change : TextChange) : Row :=
  match row.find? column, (row.get? column).bind Cell.rendered? with
  | some position, some text => row.setAt position (.text (change.apply text))
  | _, _ => row

/-- A row for each piece of the text of a cell, or the row itself if the cell has no text. -/
def splitColumn (row : Row) (column separator : String) : Except DirectiveError (List Row) := do
  let (position, value) ← require row column
  match value.rendered? with
  | none => return [row]
  | some text =>
    return (Text.split separator text).map fun piece => row.setAt position (.text piece)

end Row

inductive RowDirective where
  | rename (old new : String)
  | drop (columns : List String)
  | keep (columns : List String)
  | copy (source destination : String) (force : Bool)
  | setColumn (column : String) (expression : Expression)
  | fill (column value : String)
  | setType (column : String) (target : TargetType)
  | change (column : String) (change : TextChange)
  | filter (condition : Expression)
  | divert (condition : Expression) (message : Option String)
  | split (column separator : String)

namespace RowDirective

def divertIf (condition : Expression) (message : Option String) (store : Store) (row : Row) :
    Except DirectiveError Outcome := do
  if ← condition.holdsFor row store then
    let message := message.getD ("Row matched condition '" ++ condition.source ++ "'")
    return .divert row message Outcome.defaultCode
  else return .keep row

/-- What becomes of a row. -/
def apply (directive : RowDirective) (store : Store) (row : Row) :
    Except DirectiveError (List Outcome) :=
  match directive with
  | .rename old new => (row.renameColumn old new).map fun row => [.keep row]
  | .drop columns => (row.dropColumns columns).map fun row => [.keep row]
  | .keep columns => .ok [.keep (row.keep fun name => columns.contains name)]
  | .copy source destination force =>
    (row.copyColumn source destination force).map fun row => [.keep row]
  | .setColumn column expression =>
    (expression.cellFor row store).map fun value => [.keep (Row.put column value row)]
  | .fill column value => .ok [.keep (row.fillColumn column value)]
  | .setType column target => (row.convertColumn column target).map fun row => [.keep row]
  | .change column edit => .ok [.keep (row.changeText column edit)]
  | .filter condition =>
    (condition.holdsFor row store).map fun found => if found then [] else [.keep row]
  | .divert condition message => (divertIf condition message store row).map fun outcome => [outcome]
  | .split column separator => (row.splitColumn column separator).map fun rows => rows.map .keep

def applyAll (directive : RowDirective) (store : Store) :
    List Row → Except DirectiveError (List Outcome)
  | [] => .ok []
  | row :: rows => do
    let outcomes ← directive.apply store row
    let others ← directive.applyAll store rows
    return outcomes ++ others

end RowDirective

end RowRecipe
