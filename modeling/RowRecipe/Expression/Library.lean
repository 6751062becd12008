import RowRecipe.Expression.Library.Bytes
import RowRecipe.Expression.Library.Maps

/-!
# The library of functions

A function is called by its name with all of its arguments; a method call gives it the value in
front of the point as its first one. A function that changes its first argument mostly has no
result. Functions that take functions stand apart, as they run them.
-/
namespace RowRecipe.Expression

/-- Functions of moments: the seconds that have passed since one. -/
def momentFunction? (name : String) (delay : Float) : List Value → Option Outcome
  | [] =>
    if name = "elapsed" then
      some (if delay > 0 then .error (.arithmetic .futureMoment) else .ok (.float (0 - delay)))
    else none
  | _ => none

def typedFunction? (name : String) (first : Value) (others : List Value) : Option Outcome :=
  match first with
  | .whole value => wholeFunction? name value others
  | .float value => floatFunction? name value others
  | .char value => charFunction? name value others
  | .text value => textFunction? name value others
  | .bytes value => bytesFunction? name value others
  | .array items => arrayFunction? name items others
  | .map members => mapFunction? name members others
  | .range closed from' last => rangeFunction? name closed from' last others
  | .function function _ lambda => functionFunction? name function lambda others
  | .moment delay => momentFunction? name delay others
  | _ => none

def typedChange? (name : String) (first : Value) (others : List Value) : Option Change :=
  match first with
  | .whole value => wholeChange? name value others
  | .char value => charChange? name value others
  | .text value => textChange? name value others
  | .bytes value => bytesChange? name value others
  | .array items => arrayChange? name items others
  | .map members => mapChange? name members others
  | _ => none

def generalFunction? (name : String) (arguments : List Value) : Option Outcome :=
  match name, arguments with
  | "type_of", [value] => some (.ok (.text value.typeName))
  | "to_string", [value] => some (.ok (.text value.display))
  | "to_debug", [value] => some (.ok (textValue (value.innerChars .bare)))
  | "print", [_] | "debug", [_] => some (.ok .null)
  | "tag", [_] => some (.ok (.whole 0))
  | "max", [a, b] => (extreme? true a b).map .ok
  | "min", [a, b] => (extreme? false a b).map .ok
  | "contains", [container, part] =>
    match holds container part with
    | .ok found => some (.ok (.boolean found))
    | .error _ => none
  | "print", [] | "debug", [] => some (.ok .null)
  | "timestamp", [] => some (.ok (.moment 0))
  | "blob", [] => some (.ok (.bytes []))
  | "PI", [] => some (.ok (.float pi))
  | "E", [] => some (.ok (.float e))
  | _, _ => none

/-- Calls a function, if there is one of the name for the arguments: its result, and its first
argument afterwards. -/
def native? (name : String) (arguments : List Value) : Option Change :=
  match name, arguments with
  | "take", [value] => some (.ok (value, .null))
  | name, [] => (generalFunction? name []).map fun outcome => outcome.map (·, .null)
  | name, first :: others =>
    typedChange? name first others
      <|> ((typedFunction? name first others <|> generalFunction? name (first :: others)).map
        fun outcome => outcome.map (·, first))

def propertiesOf (value : Value) : List String :=
  match value with
  | .text _ => ["len", "bytes", "is_empty", "chars", "tag"]
  | .array _ | .bytes _ => ["len", "is_empty", "tag"]
  | .range .. => ["start", "end", "is_inclusive", "is_exclusive", "is_empty", "tag"]
  | .function .. => ["name", "is_anonymous", "tag"]
  | .moment _ => ["elapsed", "tag"]
  | value => "tag" :: numberProperties value

def property (value : Value) (name : String) : Outcome :=
  if name ∈ propertiesOf value then
    match native? name [value] with
    | some change => change.map Prod.fst
    | none => .error (.unknownProperty name value.typeName)
  else .error (.unknownProperty name value.typeName)

end RowRecipe.Expression
