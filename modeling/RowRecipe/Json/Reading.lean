import RowRecipe.Json.Passing

/-!
# Reading JSON

The parts of an array or object are read one after another by a reader for each part, so that a
structure can be read from its document as well as a document by itself. What is wrong with a text
is the first thing that is met when it is read from left to right.
-/
namespace RowRecipe.Json

/-- Finds the next item of an array: whether there is one, and the place to read it from. -/
def nextItem (first : Bool) (place : Place) : Except Fault (Bool × Place) :=
  let place := place.skip
  match place.rest with
  | [] => place.failAhead .endInArray
  | ']' :: _ => .ok (false, place)
  | c :: _ =>
    if first then .ok (true, place)
    else if c = ',' then
      let place := (place.drop 1).skip
      match place.rest with
      | [] => place.failAhead .endInValue
      | ']' :: _ => place.failAhead .trailingComma
      | _ => .ok (true, place)
    else place.failAhead .arrayEndExpected

/-- Passes the end of an array behind the last item that is wanted. -/
def endArray (place : Place) : Except Fault Place :=
  let place := place.skip
  match place.rest with
  | [] => place.failAhead .endInArray
  | ']' :: _ => .ok (place.drop 1)
  | ',' :: _ =>
    let place := (place.drop 1).skip
    match place.rest with
    | ']' :: _ => place.failAhead .trailingComma
    | _ => place.failAhead .trailingText
  | _ => place.failAhead .trailingText

/-- Reads the name of the next member of an object, if there is one. -/
def nextName (first : Bool) : Reader (Option String) := fun place => do
  let name (place : Place) : Except Fault (Option String × Place) :=
    (readText (place.drop 1)).map fun (name, place) => (some name, place)
  let place := place.skip
  match place.rest with
  | [] => place.failAhead .endInObject
  | '\x7d' :: _ => return (none, place)
  | c :: _ =>
    if first then
      if c = '"' then name place else place.failAhead .nameExpected
    else if c = ',' then
      let place := (place.drop 1).skip
      match place.rest with
      | [] => place.failAhead .endInValue
      | '"' :: _ => name place
      | '\x7d' :: _ => place.failAhead .trailingComma
      | _ => place.failAhead .nameExpected
    else place.failAhead .objectEndExpected

def passColon (place : Place) : Except Fault Place :=
  let place := place.skip
  match place.rest with
  | [] => place.failAhead .endInObject
  | ':' :: _ => .ok (place.drop 1)
  | _ => place.failAhead .colonExpected

/-- Passes the end of an object behind the last member. -/
def endObject (place : Place) : Except Fault Place :=
  let place := place.skip
  match place.rest with
  | [] => place.failAhead .endInObject
  | '\x7d' :: _ => .ok (place.drop 1)
  | ',' :: _ => place.failAhead .trailingComma
  | _ => place.failAhead .trailingText

/-- Reads the items of an array, at most so many, behind its bracket. -/
def readItems {α : Type} (item : Reader α) : Nat → Bool → Reader (List α)
  | 0, _, place => place.fail .tooDeep
  | count + 1, first, place => do
    match ← nextItem first place with
    | (false, place) => return ([], ← endArray place)
    | (true, place) =>
      let (value, place) ← item place
      let (values, place) ← readItems item count false place
      return (value :: values, place)

/-- Reads the members of an object, at most so many, behind its brace. -/
def readMembers {α : Type} (value : Reader α) : Nat → Bool → Reader (List (String × α))
  | 0, _, place => place.fail .tooDeep
  | count + 1, first, place => do
    match ← nextName first place with
    | (none, place) => return ([], ← endObject place)
    | (some name, place) =>
      let (value', place) ← value (← passColon place)
      let (members, place) ← readMembers value count false place
      return ((name, value') :: members, place)

/-- A number in a document: those beyond 64 bits are floats. -/
def ofNumber : Number → Json
  | .whole value =>
    match whole? value with
    | some value => .whole value
    | none => .float (Binary64.nearest false value.natAbs 1)
  | .float value => .float value

/-- Reads a document whose arrays and objects are nested no deeper than this, by a reader for the
numbers behind their signs. -/
def readValue (number : Bool → Reader Number) : Nat → Reader Json
  | depth, place => do
    let place := place.skip
    match place.rest with
    | [] => place.failAhead .endInValue
    | 'n' :: _ => return (.null, ← readWord ['u', 'l', 'l'] (place.drop 1))
    | 't' :: _ => return (.boolean true, ← readWord ['r', 'u', 'e'] (place.drop 1))
    | 'f' :: _ => return (.boolean false, ← readWord ['a', 'l', 's', 'e'] (place.drop 1))
    | '-' :: _ =>
      let (value, place) ← number true (place.drop 1)
      return (ofNumber value, place)
    | '"' :: _ =>
      let (inside, place) ← readText (place.drop 1)
      return (.text inside, place)
    | '[' :: rest =>
      match depth with
      | 0 => place.failAhead .tooDeep
      | depth + 1 =>
        let item := readValue number depth
        let (items, place) ← readItems item (rest.length + 1) true (place.drop 1)
        return (.array items, place)
    | '\x7b' :: rest =>
      match depth with
      | 0 => place.failAhead .tooDeep
      | depth + 1 =>
        let value := readValue number depth
        let (members, place) ← readMembers value (rest.length + 1) true (place.drop 1)
        return (.object members, place)
    | c :: _ =>
      if c.isDigit then
        let (value, place) ← number false place
        return (ofNumber value, place)
      else place.failAhead .valueExpected

/-- How deep documents may be nested. -/
def maxDepth : Nat := 127

/-- Reads the whole of a text with a reader. -/
def readWhole {α : Type} (reader : Reader α) (text : String) : Except Error α :=
  let result : Except Fault α := do
    let (value, place) ← reader (.start text)
    let place := place.skip
    if place.rest.isEmpty then return value else place.failAhead .trailingText
  result.mapError fun fault => fault.locate text

def read (text : String) : Except Error Json :=
  readWhole (readValue readNumber maxDepth) text

end RowRecipe.Json
