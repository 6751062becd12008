import RowRecipe.Json.Writer
import RowRecipe.Text.Quoted

/-!
# What is wrong with JSON text

A text may be no JSON, end too early, or be JSON of another shape than what is asked for. Every
problem belongs to a place of the text, which is given by the bytes that stand before it or by a
line and a column.
-/
namespace RowRecipe.Json

inductive Found where
  | null
  | boolean (value : Bool)
  | whole (value : Int)
  | float (value : Float)
  | text (value : String)
  | array
  | object

inductive Problem where
  | endInArray
  | endInObject
  | endInText
  | endInValue
  | colonExpected
  | arrayEndExpected
  | objectEndExpected
  | wordExpected
  | valueExpected
  | badEscape
  | badNumber
  | outOfRange
  | controlCharacter
  | nameExpected
  | loneSurrogate
  | surrogateExpected
  | trailingComma
  | trailingText
  | tooDeep
  /-- The value is of the wrong kind. -/
  | wrongKind (found : Found) (expected : String)
  /-- The value is of the right kind and not of the right form. -/
  | wrongValue (found : Found) (expected : String)
  /-- The word is none of those that are known, which are two. -/
  | unknownWord (word first second : String)
  /-- The member stands twice. -/
  | repeatedName (name : String)

inductive Category where
  /-- The text is no JSON at some point. -/
  | malformed
  /-- The text ends too early. -/
  | incomplete
  /-- The text is JSON and not what is asked for. -/
  | mismatched
  deriving Repr, DecidableEq

/-- A problem and the number of bytes before its place. -/
structure Fault where
  problem : Problem
  offset : Nat

/-- A problem with the line and the column of its place, the line counting from one and the column
giving the bytes of the line before the place. -/
structure Error where
  problem : Problem
  line : Nat
  column : Nat

/-- A word in back quotes. -/
def inBackQuotes (s : String) : String :=
  "\x60" ++ s ++ "\x60"

/-- How a value is called. -/
def Found.name : Found → String
  | .null => "null"
  | .boolean value => "boolean " ++ inBackQuotes (if value then "true" else "false")
  | .whole value => "integer " ++ inBackQuotes (integerText value)
  | .float value => "floating point " ++ inBackQuotes (FloatLayout.json.text value)
  | .text value => "string " ++ Text.shown value
  | .array => "sequence"
  | .object => "map"

namespace Problem

def category : Problem → Category
  | .endInArray | .endInObject | .endInText | .endInValue => .incomplete
  | .wrongKind .. | .wrongValue .. | .unknownWord .. | .repeatedName .. => .mismatched
  | _ => .malformed

def text : Problem → String
  | .endInArray => "EOF while parsing a list"
  | .endInObject => "EOF while parsing an object"
  | .endInText => "EOF while parsing a string"
  | .endInValue => "EOF while parsing a value"
  | .colonExpected => "expected \x60:\x60"
  | .arrayEndExpected => "expected \x60,\x60 or \x60]\x60"
  | .objectEndExpected => "expected \x60,\x60 or \x60\x7d\x60"
  | .wordExpected => "expected ident"
  | .valueExpected => "expected value"
  | .badEscape => "invalid escape"
  | .badNumber => "invalid number"
  | .outOfRange => "number out of range"
  | .controlCharacter =>
    "control character (\\u0000-\\u001F) found while parsing a string"
  | .nameExpected => "key must be a string"
  | .loneSurrogate => "lone leading surrogate in hex escape"
  | .surrogateExpected => "unexpected end of hex escape"
  | .trailingComma => "trailing comma"
  | .trailingText => "trailing characters"
  | .tooDeep => "recursion limit exceeded"
  | .wrongKind found expected => "invalid type: " ++ found.name ++ ", expected " ++ expected
  | .wrongValue found expected => "invalid value: " ++ found.name ++ ", expected " ++ expected
  | .unknownWord word first second =>
    "unknown variant " ++ inBackQuotes word ++ ", expected " ++ inBackQuotes first ++ " or "
      ++ inBackQuotes second
  | .repeatedName name => "duplicate field " ++ inBackQuotes name

end Problem

/-- The line and the column behind so many bytes, from the line and column given on. -/
def lineAndColumn : List Char → (bytes line column : Nat) → Nat × Nat
  | _, 0, line, column => (line, column)
  | [], _ + 1, line, column => (line, column)
  | c :: cs, bytes + 1, line, column =>
    if c = '\n' then lineAndColumn cs bytes (line + 1) 0
    else if bytes + 1 ≤ c.utf8Size then (line, column + bytes + 1)
    else lineAndColumn cs (bytes + 1 - c.utf8Size) line (column + c.utf8Size)

/-- A fault with its line and column in a text. -/
def Fault.locate (fault : Fault) (text : String) : Error :=
  let (line, column) := lineAndColumn text.toList fault.offset 1 0
  ⟨fault.problem, line, column⟩

def Error.message (error : Error) : String :=
  error.problem.text ++ " at line " ++ integerText error.line ++ " column "
    ++ integerText error.column

end RowRecipe.Json
