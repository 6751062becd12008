import RowRecipe.Number.Reading
import RowRecipe.SortedMap
import RowRecipe.Text.Case
import RowRecipe.Text.Pieces

/-!
# Arguments

An argument has the kind that its parameter declares, and is read from a token once, when a recipe
is read. Texts lose one layer of quotes, numbers are whole where that is possible, truth values are
words of a small vocabulary, and lists are cut at commas.
-/
namespace RowRecipe

inductive Kind where
  | columnName | identifier | text | number | boolean | list
  deriving Repr, DecidableEq

def Kind.name : Kind → String
  | .columnName => "column-name"
  | .identifier => "identifier"
  | .text => "text"
  | .number => "number"
  | .boolean => "boolean"
  | .list => "list"

inductive Argument where
  | columnName (value : String)
  | identifier (value : String)
  | text (value : String)
  | whole (value : Int64)
  | float (value : Float)
  | boolean (value : Bool)
  | list (items : List String)
  deriving DecidableEq

/-- What a directive asks an argument to be. -/
inductive Expected where
  | string | integer | number | boolean | list
  deriving Repr, DecidableEq

def Expected.name : Expected → String
  | .string => "string"
  | .integer => "integer"
  | .number => "number"
  | .boolean => "boolean"
  | .list => "list"

inductive ArgumentError where
  | missing (name : String)
  | invalidNumber (name token : String)
  | invalidBoolean (name token : String)
  | wrongKind (name : String) (expected : Expected)
  /-- The directive does not take the value. -/
  | invalid (name problem : String)
  deriving Repr, DecidableEq

def ArgumentError.message : ArgumentError → String
  | .missing name => "Missing required argument '" ++ name ++ "'"
  | .invalidNumber name token =>
    "Argument '" ++ name ++ "' expects a number, got '" ++ token ++ "'"
  | .invalidBoolean name token =>
    "Argument '" ++ name ++ "' expects a boolean (true/false, yes/no, on/off, 1/0), got '"
      ++ token ++ "'"
  | .wrongKind name expected => "Argument '" ++ name ++ "' is not a " ++ expected.name
  | .invalid name problem => "Invalid value for argument '" ++ name ++ "': " ++ problem

/-- The truth value that a word stands for, in any letter case and between any blanks. -/
def readBoolean? (token : String) : Option Bool :=
  let word := Text.lower (Text.trim token)
  if word ∈ ["true", "yes", "y", "on", "1"] then some true
  else if word ∈ ["false", "no", "n", "off", "0"] then some false
  else none

/-- A float that is finite. -/
def readFinite? (cs : List Char) : Option Float :=
  (readFloat? cs).filter Binary64.isFinite

/-- The items of a list: what stands between commas, without blanks around it, unless nothing
stands there. -/
def readItems (cs : List Char) : List (List Char) :=
  ((Text.splitAt ',' cs).map Text.trimChars).filter (· ≠ [])

/-- The characters between a pair of quotes of one kind. -/
def unquoteWith? (quote : Char) : List Char → Option (List Char)
  | first :: rest => if first = quote ∧ rest.getLast? = some quote then some rest.dropLast else none
  | [] => none

def unquote (cs : List Char) : List Char :=
  match unquoteWith? '\'' cs with
  | some inner => inner
  | none => (unquoteWith? '"' cs).getD cs

namespace Argument

/-- Reads a number: whole if it is written so and fits, else a finite float. -/
def readNumber? (token : String) : Option Argument :=
  let cs := Text.trimChars token.toList
  match readWhole? cs with
  | some value => some (.whole value)
  | none => (readFinite? cs).map .float

/-- Reads a token for the parameter of a kind and a name. -/
def read (kind : Kind) (name token : String) : Except ArgumentError Argument :=
  match kind with
  | .columnName => .ok (.columnName token)
  | .identifier => .ok (.identifier token)
  | .text => .ok (.text (String.ofList (unquote token.toList)))
  | .number =>
    match readNumber? token with
    | some value => .ok value
    | none => .error (.invalidNumber name token)
  | .boolean =>
    match readBoolean? token with
    | some value => .ok (.boolean value)
    | none => .error (.invalidBoolean name token)
  | .list => .ok (.list ((readItems token.toList).map String.ofList))

/-- The text of a column name, an identifier or a text. -/
def text? : Argument → Option String
  | .columnName value | .identifier value | .text value => some value
  | _ => none

/-- The whole number of a number without a fraction, for floats of a size below `2 ^ 63`. -/
def whole? : Argument → Option Int64
  | .whole value => some value
  | .float value =>
    if Binary64.isWhole value ∧ value.abs < Binary64.ofInt (Int.pow 2 63) then
      Binary64.truncated? value
    else none
  | _ => none

def float? : Argument → Option Float
  | .whole value => some (Binary64.ofInt value.toInt)
  | .float value => some value
  | _ => none

def boolean? : Argument → Option Bool
  | .boolean value => some value
  | _ => none

def list? : Argument → Option (List String)
  | .list items => some items
  | _ => none

end Argument

/-- The arguments of one directive, and the text of the directive. -/
structure Arguments where
  values : SortedMap Argument
  line : String
  deriving DecidableEq

namespace Arguments

def require (arguments : Arguments) (name : String) : Except ArgumentError Argument :=
  match arguments.values.get? name with
  | some argument => .ok argument
  | none => .error (.missing name)

/-- The argument with a name, seen as something it must be. -/
def view {α : Type} (arguments : Arguments) (name : String) (expected : Expected)
    (seen : Argument → Option α) : Except ArgumentError α :=
  match arguments.require name with
  | .error fault => .error fault
  | .ok argument =>
    match seen argument with
    | some value => .ok value
    | none => .error (.wrongKind name expected)

def text (arguments : Arguments) (name : String) : Except ArgumentError String :=
  arguments.view name .string Argument.text?

def whole (arguments : Arguments) (name : String) : Except ArgumentError Int64 :=
  arguments.view name .integer Argument.whole?

def number (arguments : Arguments) (name : String) : Except ArgumentError Float :=
  arguments.view name .number Argument.float?

def boolean (arguments : Arguments) (name : String) : Except ArgumentError Bool :=
  arguments.view name .boolean Argument.boolean?

def list (arguments : Arguments) (name : String) : Except ArgumentError (List String) :=
  arguments.view name .list Argument.list?

end Arguments

end RowRecipe
