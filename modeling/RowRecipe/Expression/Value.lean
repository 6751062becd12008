import RowRecipe.Expression.FloatText
import RowRecipe.Expression.Series
import RowRecipe.Expression.Tree
import RowRecipe.Number.Range
import RowRecipe.Row
import RowRecipe.Text.Quoted

/-!
# Values of expressions

Expressions compute with values of their own. A date comes in as its text, and a row as a map, in
which the first cell with a name stands for all of them; a character goes out as a text, and a map
as a row with sorted names. Ranges, series, functions and moments arise only on the way, and go out
as their texts.
-/
namespace RowRecipe.Expression

structure Lambda where
  parameters : List String
  body : Statement

inductive Value where
  | null
  | boolean (value : Bool)
  | whole (value : Int64)
  | float (value : Float)
  | char (value : Char)
  | text (value : String)
  | bytes (value : List UInt8)
  | array (items : List Value)
  /-- Members with distinct names, sorted by name. -/
  | map (members : List (String × Value))
  /-- The whole numbers from the first one up to the last one, which belongs to it or not. -/
  | range (closed : Bool) (first last : Int64)
  | series (series : Series)
  /-- A moment so many seconds behind the present one. No time passes while values are computed. -/
  | moment (delay : Float)
  /-- A function with a name, or without one, and the arguments that it already has. -/
  | function (name : String) (held : List Value) (lambda : Option Lambda)
  /-- The contents of a cell that functions and the variables around them have in common. -/
  | shared (cell : Nat)
  deriving Inhabited

namespace Value

mutual

def ofCell : Cell → Value
  | .null => .null
  | .boolean value => .boolean value
  | .whole value => .whole value
  | .float value => .float value
  | .text value => .text value
  | .date value => .text value.text
  | .bytes value => .bytes value
  | .list items => .array (ofItems items)
  | .row cells => .map (ofCells cells)

def ofItems : List Cell → List Value
  | [] => []
  | item :: items => ofCell item :: ofItems items

def ofCells : List (String × Cell) → List (String × Value)
  | [] => []
  | (name, value) :: cells => insertEntry name (ofCell value) (ofCells cells)

end

def typeName : Value → String
  | .null | .shared _ => "()"
  | .boolean _ => "bool"
  | .whole _ => "i64"
  | .float _ => "f64"
  | .char _ => "char"
  | .text _ => "string"
  | .bytes _ => "blob"
  | .array _ => "array"
  | .map _ => "map"
  | .range closed _ _ => if closed then "range=" else "range"
  | .series inner => inner.typeName
  | .moment _ => "timestamp"
  | .function .. => "Fn"

/-- The name of the type of a value that stands where one of another type is needed. -/
def fullTypeName : Value → String
  | .range closed _ _ =>
    if closed then "core::ops::range::RangeInclusive<i64>" else "core::ops::range::Range<i64>"
  | .series inner => inner.fullTypeName
  | value => value.typeName

/-- The name of the type of an argument. -/
def argumentType : Value → String
  | .text _ => "&str | ImmutableString | String"
  | value => value.typeName

def ofLiteral : Literal → Value
  | .null => .null
  | .boolean value => .boolean value
  | .whole value => .whole value
  | .float value => .float value
  | .char value => .char value
  | .text value => .text value

def toLiteral? : Value → Option Literal
  | .null => some .null
  | .boolean value => some (.boolean value)
  | .whole value => some (.whole value)
  | .float value => some (.float value)
  | .char value => some (.char value)
  | .text value => some (.text value)
  | _ => none

/-- The characters of bytes, two digits for each and a blank behind every eighth. -/
def bytesChars (bytes : List UInt8) : List Char :=
  let digit := fun (n : Nat) => Nat.digitChar (n % 16)
  '[' :: ((bytes.zipIdx.flatMap fun (byte, place) =>
    let digits := [digit (byte.toNat / 16), digit byte.toNat]
    if place ≠ 0 ∧ place % 8 = 0 then ' ' :: digits else digits) ++ [']'])

def booleanChars (value : Bool) : List Char :=
  if value then ['t', 'r', 'u', 'e'] else ['f', 'a', 'l', 's', 'e']

/-- How values are written in other ones. -/
inductive InnerStyle where
  /-- Characters stand by themselves, and the types of series are short. -/
  | bare
  /-- Characters stand in quotes, and the types of series are in full. -/
  | exact
  deriving DecidableEq

mutual

def innerChars (style : InnerStyle) : Value → List Char
  | .null => ['(', ')']
  | .boolean value => booleanChars value
  | .whole value => integerChars value.toInt
  | .float value => innerLayout.chars value
  | .char value => if style = .exact then Text.showChars '\'' [value] else [value]
  | .text value => Text.showChars '"' value.toList
  | .bytes value => bytesChars value
  | .array items => '[' :: itemsChars style items
  | .map members => '#' :: '\x7b' :: membersChars style members
  | .range closed first last =>
    integerChars first.toInt ++ (if closed then ['.', '.', '='] else ['.', '.'])
      ++ (if last.toInt = maxWhole then [] else integerChars last.toInt)
  | .series inner => (if style = .exact then inner.fullTypeName else inner.typeName).toList
  | .moment _ => "<timestamp>".toList
  | .function name _ _ => ['F', 'n', '('] ++ name.toList ++ [')']
  | .shared _ => []

def itemsChars (style : InnerStyle) : List Value → List Char
  | [] => [']']
  | [item] => item.innerChars style ++ [']']
  | item :: items => item.innerChars style ++ ',' :: ' ' :: itemsChars style items

def membersChars (style : InnerStyle) : List (String × Value) → List Char
  | [] => ['\x7d']
  | [(name, value)] =>
    Text.showChars '"' name.toList ++ ':' :: ' ' :: (value.innerChars style ++ ['\x7d'])
  | (name, value) :: members =>
    Text.showChars '"' name.toList ++ ':' :: ' ' :: (value.innerChars style ++ ',' :: ' '
      :: membersChars style members)

end

/-- The characters of a value by itself, what is inside it being written in a style. -/
def charsIn (style : InnerStyle) : Value → List Char
  | .null => []
  | .float value => floatLayout.chars value
  | .char value => [value]
  | .text value => value.toList
  | value => value.innerChars style

/-- The characters of a value by itself. -/
def chars (value : Value) : List Char :=
  value.charsIn .bare

/-- The text of a value by itself. -/
def display (value : Value) : String :=
  String.ofList value.chars

mutual

/-- The cell of a value. -/
def toCell : Value → Cell
  | .null => .null
  | .boolean value => .boolean value
  | .whole value => .whole value
  | .float value => .float value
  | .char value => .text value.toString
  | .text value => .text value
  | .bytes value => .bytes value
  | .array items => .list (toItems items)
  | .map members => .row (toCells members)
  | value => .text (String.ofList (value.innerChars .exact))

def toItems : List Value → List Cell
  | [] => []
  | item :: items => item.toCell :: toItems items

def toCells : List (String × Value) → List (String × Cell)
  | [] => []
  | (name, value) :: members => (name, value.toCell) :: toCells members

end

/-- How far a float is above another one, relative to the greater one of their sizes. -/
def gap (a b : Float) : Float :=
  let size := if a.abs < b.abs then b.abs else a.abs
  (a - b) / (if a * b == 0 then 1 else size)

/-- The largest gap that does not count, which is that from one to the next float. -/
def tolerance : Float :=
  Binary64.nearest false 1 (Nat.pow 2 52)

/-- Whether no gap counts between two floats. -/
def isClose (a b : Float) : Bool :=
  (gap a b).abs ≤ tolerance

mutual

/-- Whether two values are equal: whole numbers by size, floats if no gap counts between them, texts
and characters by what they spell, arrays and maps by their parts; values of different types are
not. -/
def equals : Value → Value → Bool
  | .null, .null => true
  | .boolean a, .boolean b => a == b
  | .whole a, .whole b => a == b
  | .whole a, .float b => isClose (Binary64.ofInt a.toInt) b
  | .float a, .whole b => isClose a (Binary64.ofInt b.toInt)
  | .float a, .float b => isClose a b
  | .char a, .char b => a == b
  | .char a, .text b => [a] == b.toList
  | .text a, .char b => a.toList == [b]
  | .text a, .text b => a == b
  | .bytes a, .bytes b => a == b
  | .array a, .array b => itemsEqual a b
  | .map a, .map b => membersEqual a b
  | .range closed first last, .range closed' first' last' =>
    closed == closed' && first == first' && last == last'
  | .moment a, .moment b => a == b
  | _, _ => false

def itemsEqual : List Value → List Value → Bool
  | [], [] => true
  | a :: as, b :: bs => a.equals b && itemsEqual as bs
  | _, _ => false

def membersEqual : List (String × Value) → List (String × Value) → Bool
  | [], [] => true
  | (a, x) :: as, (b, y) :: bs => a == b && x.equals y && membersEqual as bs
  | _, _ => false

end

end Value

end RowRecipe.Expression
