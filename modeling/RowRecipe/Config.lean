import RowRecipe.Json.Reading
import RowRecipe.Pipeline

/-!
# Configuration

The configuration says how the lines of a recipe are read and what becomes of rows that are
diverted. It is read from a JSON document, in which every part may be missing and a structure may be
an object or an array of its fields. What is wrong with a document is the first thing that is met
when it is read from left to right.
-/
namespace RowRecipe

structure Config where
  lines : LineOptions
  errorRows : ErrorRows
  deriving Repr, DecidableEq

/-- Why there is no configuration. -/
inductive ConfigError where
  | unreadable (problem : String)
  | json (error : Json.Error)
  | emptyCommentStart
  | blankMarker

namespace ConfigError

def message : ConfigError → String
  | .unreadable problem => "Failed to read config: " ++ problem
  | .json error => "Invalid config: " ++ error.message
  | .emptyCommentStart =>
    "Invalid config value for 'parser.comment_prefixes': comment prefixes must not be empty"
  | .blankMarker =>
    "Invalid config value for 'parser.continuation_marker': continuation marker must not be "
      ++ "whitespace"

end ConfigError

namespace Config

open Json (Place Reader Found)

/-- The configuration where nothing is said. -/
def standard : Config :=
  ⟨.standard, .divert⟩

/-- What is wrong with a value where one of another kind is asked for. The value is read if it is
neither array nor object, and may be no JSON itself. -/
def refuse {α : Type} (expected : String) (place : Place) : Except Json.Fault α :=
  let wrong (found : Found) (place : Place) : Except Json.Fault α :=
    place.fail (.wrongKind found expected)
  let number (negative : Bool) (place : Place) : Except Json.Fault α := do
    match ← Json.readNumber negative place with
    | (.whole value, place) => wrong (.whole value) place
    | (.float value, place) => wrong (.float value) place
  match place.rest with
  | [] => place.failAhead .endInValue
  | 'n' :: _ => do wrong .null (← Json.readWord ['u', 'l', 'l'] (place.drop 1))
  | 't' :: _ => do wrong (.boolean true) (← Json.readWord ['r', 'u', 'e'] (place.drop 1))
  | 'f' :: _ => do wrong (.boolean false) (← Json.readWord ['a', 'l', 's', 'e'] (place.drop 1))
  | '-' :: _ => number true (place.drop 1)
  | '"' :: _ => do
    let (text, place) ← Json.readText (place.drop 1)
    wrong (.text text) place
  | '[' :: _ => wrong .array place
  | '\x7b' :: _ => wrong .object place
  | c :: _ => if c.isDigit then number false place else place.failAhead .valueExpected

/-- A field of a structure: its name, and how its value changes the structure. -/
structure Field (α : Type) where
  name : String
  set : α → Reader α

/-- Reads an array of fields in their order. Fields at the end may be missing. -/
def readItems {α : Type} : List (Field α) → Bool → α → Reader α
  | [], _, state, place => do return (state, ← Json.endArray place)
  | field :: fields, first, state, place => do
    match ← Json.nextItem first place with
    | (false, place) => return (state, ← Json.endArray place)
    | (true, place) =>
      let (state, place) ← field.set state place
      readItems fields false state place

/-- A field that stands twice is found behind its name, and behind the brace if that closes the
object right there. -/
def failRepeated {α : Type} (name : String) (place : Place) : Except Json.Fault α :=
  let place := place.skip
  match place.rest with
  | '\x7d' :: _ => (place.drop 1).fail (.repeatedName name)
  | _ => place.fail (.repeatedName name)

/-- Reads the members of an object, at most so many. No field may stand twice, and members that are
no fields are passed over. -/
def readMembers {α : Type} (fields : List (Field α)) : Nat → List String → Bool → α → Reader α
  | 0, _, _, _, place => place.fail .tooDeep
  | count + 1, seen, first, state, place => do
    match ← Json.nextName first place with
    | (none, place) => return (state, ← Json.endObject place)
    | (some name, place) =>
      match fields.find? fun field => field.name == name with
      | none =>
        let place ← Json.passValue (← Json.passColon place)
        readMembers fields count seen false state place
      | some field =>
        if seen.contains name then failRepeated name place
        else
          let (state, place) ← field.set state (← Json.passColon place)
          readMembers fields count (name :: seen) false state place

/-- Reads a structure, which has a title, from an array or an object of its fields. -/
def readFields {α : Type} (title : String) (fields : List (Field α)) (state : α) : Reader α :=
  fun place =>
    let place := place.skip
    match place.rest with
    | '[' :: _ => readItems fields true state (place.drop 1)
    | '\x7b' :: rest => readMembers fields (rest.length + 1) [] true state (place.drop 1)
    | _ => refuse ("struct " ++ title) place

def readText (expected : String) : Reader String := fun place =>
  let place := place.skip
  match place.rest with
  | '"' :: _ => Json.readText (place.drop 1)
  | _ => refuse expected place

def readTexts : Reader (List String) := fun place =>
  let place := place.skip
  match place.rest with
  | '[' :: rest => Json.readItems (readText "a string") (rest.length + 1) true (place.drop 1)
  | _ => refuse "a sequence" place

def readChar : Reader Char := fun place => do
  let (text, place) ← readText "a character" place
  match text.toList with
  | [c] => return (c, place)
  | _ => place.fail (.wrongValue (.text text) "a character")

def errorRowsName : ErrorRows → String
  | .divert => "divert"
  | .retain => "retain"

def readErrorRowsName : Reader ErrorRows := fun place => do
  let (word, place) ← readText "variant identifier" place
  if word = errorRowsName .divert then return (.divert, place)
  else if word = errorRowsName .retain then return (.retain, place)
  else place.fail (.unknownWord word (errorRowsName .divert) (errorRowsName .retain))

def readNull (place : Place) : Except Json.Fault Place :=
  let place := place.skip
  match place.rest with
  | 'n' :: _ => Json.readWord ['u', 'l', 'l'] (place.drop 1)
  | _ => refuse "unit" place

/-- Reads a word, which may also be the only name of an object, for null. -/
def readErrorRows : Reader ErrorRows := fun place => do
  let place := place.skip
  match place.rest with
  | [] => place.failAhead .endInValue
  | '"' :: _ => readErrorRowsName place
  | '\x7b' :: _ =>
    let (policy, place) ← readErrorRowsName (place.drop 1)
    let place := (← readNull (← Json.passColon place)).skip
    match place.rest with
    | [] => place.fail .endInObject
    | '\x7d' :: _ => return (policy, place.drop 1)
    | _ => place.fail .valueExpected
  | _ => place.failAhead .valueExpected

def lineFields : List (Field LineOptions) :=
  [⟨"comment_prefixes", fun options place => do
      let (starts, place) ← readTexts place
      return ({ options with commentStarts := starts }, place)⟩,
    ⟨"continuation_marker", fun options place => do
      let (marker, place) ← readChar place
      return ({ options with marker := marker }, place)⟩]

def executorFields : List (Field ErrorRows) :=
  [⟨"error_rows", fun _ place => readErrorRows place⟩]

def fields : List (Field Config) :=
  [⟨"parser", fun config place => do
      let (lines, place) ← readFields "ParserOptions" lineFields .standard place
      return ({ config with lines := lines }, place)⟩,
    ⟨"executor", fun config place => do
      let (policy, place) ← readFields "ExecutorOptions" executorFields .divert place
      return ({ config with errorRows := policy }, place)⟩]

def readDocument (text : String) : Except Json.Error Config :=
  Json.readWhole (readFields "EngineConfig" fields standard) text

/-- A configuration that can be used. -/
def check (config : Config) : Except ConfigError Config :=
  if config.lines.commentStarts.any String.isEmpty then .error .emptyCommentStart
  else if Text.isBlank config.lines.marker then .error .blankMarker
  else .ok config

def read (text : String) : Except ConfigError Config :=
  match readDocument text with
  | .error error => .error (.json error)
  | .ok config => config.check

def toJson (config : Config) : Json :=
  .object
    [("parser", .object
      [("comment_prefixes", .array (config.lines.commentStarts.map .text)),
        ("continuation_marker", .text config.lines.marker.toString)]),
      ("executor", .object [("error_rows", .text (errorRowsName config.errorRows))])]

end Config

end RowRecipe
