import RowRecipe.Expression.Library.Texts
import RowRecipe.SortedMap

/-!
# Functions on maps, ranges and functions

A name that a map lacks has null as its value. A map is written as JSON with nulls and inner arrays
and maps, all else being written as it is inside an array.
-/
namespace RowRecipe.Expression

namespace Value

mutual

/-- The characters of a value in a map that is written as JSON. -/
def jsonChars : Value → List Char
  | .null => ['n', 'u', 'l', 'l']
  | .array items => '[' :: jsonItems items
  | .map members => '\x7b' :: jsonMembers members
  | value => value.innerChars .exact

def jsonItems : List Value → List Char
  | [] => [']']
  | [item] => item.jsonChars ++ [']']
  | item :: items => item.jsonChars ++ ',' :: jsonItems items

def jsonMembers : List (String × Value) → List Char
  | [] => ['\x7d']
  | [(name, value)] =>
    Text.showChars '"' name.toList ++ ':' :: (value.jsonChars ++ ['\x7d'])
  | (name, value) :: members =>
    Text.showChars '"' name.toList ++ ':' :: (value.jsonChars ++ ',' :: jsonMembers members)

end

end Value

/-- Members with those of another map put in. -/
def mixed (members more : List (String × Value)) : List (String × Value) :=
  more.foldl (fun members (name, value) => insertEntry name value members) members

def mapFunction? (name : String) (members : List (String × Value)) (others : List Value) :
    Option Outcome :=
  match name, others with
  | "len", [] => some (.ok (countValue members.length))
  | "is_empty", [] => some (.ok (.boolean members.isEmpty))
  | "get", [.text key] => some (.ok ((lookupEntry key members).getD .null))
  | "keys", [] => some (.ok (.array (members.map fun member => .text member.1)))
  | "values", [] => some (.ok (.array (members.map Prod.snd)))
  | "to_json", [] => some (.ok (textValue (Value.map members).jsonChars))
  | _, _ => none

def mapChange? (name : String) (members : List (String × Value)) (others : List Value) :
    Option Change :=
  match name, others with
  | "set", [.text key, value] => changed (.map (insertEntry key value members))
  | "clear", [] => changed (.map [])
  | "remove", [.text key] =>
    some (.ok ((lookupEntry key members).getD .null, .map (removeEntry key members)))
  | "mixin", [.map more] => changed (.map (mixed members more))
  | "fill_with", [.map more] => changed (.map (mixed more members))
  | _, _ => none

/-- Whether a range holds no number. -/
def isEmptyRange (closed : Bool) (first last : Int64) : Bool :=
  if closed then last < first else last ≤ first

def rangeFunction? (name : String) (closed : Bool) (first last : Int64) (others : List Value) :
    Option Outcome :=
  match name, others with
  | "start", [] => some (.ok (.whole first))
  | "end", [] => some (.ok (.whole last))
  | "is_inclusive", [] => some (.ok (.boolean closed))
  | "is_exclusive", [] => some (.ok (.boolean !closed))
  | "is_empty", [] => some (.ok (.boolean (isEmptyRange closed first last)))
  | "range", [.whole step] => if closed then none else some (wholeSteps first last step)
  | _, _ => none

/-- What is known of a function. -/
def functionFunction? (name : String) (function : String) (lambda : Option Lambda)
    (others : List Value) : Option Outcome :=
  match name, others with
  | "name", [] => some (.ok (.text function))
  | "is_anonymous", [] => some (.ok (.boolean lambda.isSome))
  | _, _ => none

end RowRecipe.Expression
