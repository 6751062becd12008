import RowRecipe.Json.Basic
import RowRecipe.Number.Layout

/-!
# Writing JSON

The compact form has no blanks; the spread form puts each item of an array and each member of an
object on a line of its own, two blanks further in. In strings the quote, the backslash and the
control characters below the blank are escaped, and everything else stands for itself.
-/
namespace RowRecipe

/-- The layout of floats in JSON: a point in every float, and an exponent from 1e16 up and below
1e-5. -/
def FloatLayout.json : FloatLayout where
  tie := .even
  isPositional := fun decimal => -5 ≤ decimal.leading && decimal.leading < 16
  pointZero := true
  plusExponent := true
  signedZero := true

namespace Json

def hexDigit (n : Nat) : Char :=
  Nat.digitChar (n % 16)

def escape (c : Char) : List Char :=
  if c = '"' then ['\\', '"']
  else if c = '\\' then ['\\', '\\']
  else if c = '\x08' then ['\\', 'b']
  else if c = '\x0c' then ['\\', 'f']
  else if c = '\n' then ['\\', 'n']
  else if c = '\r' then ['\\', 'r']
  else if c = '\t' then ['\\', 't']
  else if c.toNat < 0x20 then ['\\', 'u', '0', '0', hexDigit (c.toNat / 16), hexDigit c.toNat]
  else [c]

def quoted (cs : List Char) : List Char :=
  '"' :: (cs.flatMap escape ++ ['"'])

/-- The characters of a value that is neither array nor object. Floats that are not finite have no
form of their own. -/
def scalarChars : Json → List Char
  | .boolean true => ['t', 'r', 'u', 'e']
  | .boolean false => ['f', 'a', 'l', 's', 'e']
  | .whole value => integerChars value.toInt
  | .float value =>
    if Binary64.isFinite value then FloatLayout.json.chars value else ['n', 'u', 'l', 'l']
  | .text value => quoted value.toList
  | _ => ['n', 'u', 'l', 'l']

mutual

/-- The compact form. -/
def chars : Json → List Char
  | .array items => '[' :: itemsChars items
  | .object members => '\x7b' :: membersChars members
  | scalar => scalar.scalarChars

/-- The items of an array and its end. -/
def itemsChars : List Json → List Char
  | [] => [']']
  | [item] => item.chars ++ [']']
  | item :: items => item.chars ++ ',' :: itemsChars items

/-- The members of an object and its end. -/
def membersChars : List (String × Json) → List Char
  | [] => ['\x7d']
  | [(name, value)] => quoted name.toList ++ ':' :: (value.chars ++ ['\x7d'])
  | (name, value) :: members =>
    quoted name.toList ++ ':' :: (value.chars ++ ',' :: membersChars members)

end

/-- A new line, this many levels in. -/
def newLine (depth : Nat) : List Char :=
  '\n' :: List.replicate (2 * depth) ' '

mutual

/-- The spread form of a value that stands this many levels in. -/
def spreadChars (depth : Nat) : Json → List Char
  | .array [] => ['[', ']']
  | .array items => '[' :: spreadItems depth items
  | .object [] => ['\x7b', '\x7d']
  | .object members => '\x7b' :: spreadMembers depth members
  | scalar => scalar.scalarChars

/-- The items of an array on lines of their own, and its end. -/
def spreadItems (depth : Nat) : List Json → List Char
  | [] => newLine depth ++ [']']
  | [item] => newLine (depth + 1) ++ item.spreadChars (depth + 1) ++ newLine depth ++ [']']
  | item :: items =>
    newLine (depth + 1) ++ item.spreadChars (depth + 1) ++ ',' :: spreadItems depth items

/-- The members of an object on lines of their own, and its end. -/
def spreadMembers (depth : Nat) : List (String × Json) → List Char
  | [] => newLine depth ++ ['\x7d']
  | [(name, value)] =>
    newLine (depth + 1) ++ quoted name.toList ++ ':' :: ' ' :: value.spreadChars (depth + 1)
      ++ newLine depth ++ ['\x7d']
  | (name, value) :: members =>
    newLine (depth + 1) ++ quoted name.toList ++ ':' :: ' ' :: value.spreadChars (depth + 1)
      ++ ',' :: spreadMembers depth members

end

def compactText (json : Json) : String :=
  String.ofList json.chars

def spreadText (json : Json) : String :=
  String.ofList (json.spreadChars 0)

end Json

end RowRecipe
