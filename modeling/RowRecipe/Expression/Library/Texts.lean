import RowRecipe.Expression.Library.Numbers
import RowRecipe.Text.Case
import RowRecipe.Text.Utf8

/-!
# Functions on texts

Places in a text are counted in characters, from its end if they are negative. Where a text is
looked for, one character may stand for it.
-/
namespace RowRecipe.Expression

/-- A text with some characters. -/
def textValue (cs : List Char) : Value :=
  .text (String.ofList cs)

def textsOf (pieces : List (List Char)) : Value :=
  .array (pieces.map textValue)

/-- The characters of a text or of one character. -/
def chars? : Value → Option (List Char)
  | .text value => some value.toList
  | .char value => some [value]
  | _ => none

/-- A number of items as a value. -/
def countValue (count : Nat) : Value :=
  .whole (Int64.ofNat count)

/-- The place of something as a value, -1 standing for none. -/
def placeValue : Option Nat → Value
  | some place => countValue place
  | none => .whole (-1)

/-- The part of a text from a place on, with so many characters at most. -/
def textPart (cs : List Char) (start count : Int) : List Char :=
  (Stretch.of cs.length start count).take cs

/-- The start and length that the arguments of a part of a text ask for. -/
def askedPart? (cs : List Char) : List Value → Option (Int × Int)
  | [.whole start] => some (start.toInt, cs.length)
  | arguments => Stretch.asked? arguments

/-- The pieces of a text between blanks. -/
def words (cs : List Char) : List (List Char) :=
  (cs.splitBy fun a b => Text.isBlank a == Text.isBlank b).filter
    fun word => !word.all Text.isBlank

/-- The first pieces up to a count, the last one of them holding the text of all that remain. -/
def limited (separator : List Char) (count : Int) (pieces : List (List Char)) :
    List (List Char) :=
  let last := count.toNat - 1
  if pieces.length ≤ last then pieces
  else pieces.take last ++ [Text.joinWith separator (pieces.drop last)]

/-- The pieces of a text between separators from its end on, up to a count if there is one. -/
def piecesBack (separator cs : List Char) (count : Option Int) : List (List Char) :=
  let backward := separator.reverse
  let pieces := Text.pieces backward cs.reverse
  (match count with
    | some count => limited backward count pieces
    | none => pieces).map List.reverse

/-- The place of a part of a text that does not start in front of a place. -/
def placeFrom (part cs : List Char) (start : Int) : Value :=
  let from' := if start < 0 then cs.length - start.natAbs else start.natAbs
  if cs = [] ∨ (from' ≠ 0 ∧ cs.length ≤ from') then .whole (-1)
  else placeValue ((Text.find? part (cs.drop from')).map (· + from'))

/-- A text cut at a place in front of which there are so many characters. -/
def cutText (index : Int) (cs : List Char) : List (List Char) :=
  let place :=
    if index ≤ 0 then (if cs.length < index.natAbs then 0 else cs.length - index.natAbs)
    else index.toNat
  [cs.take place, cs.drop place]

/-- The character that another one maps to, if it is a single one. -/
def mappedChar (mapping : Char → List Char) (c : Char) : Char :=
  match mapping c with
  | [image] => image
  | _ => c

/-- The item at a place, counted from the end if it is negative. -/
def itemAt? {α : Type} (index : Int) (items : List α) : Option α :=
  if 0 ≤ index then items[index.toNat]?
  else if items.length < index.natAbs then none
  else items[items.length - index.natAbs]?

/-- A list with another item at a place that it has. -/
def setAt {α : Type} (index : Int) (item : α) (items : List α) : List α :=
  if 0 ≤ index then items.set index.toNat item
  else if items.length < index.natAbs then items
  else items.set (items.length - index.natAbs) item

/-- A text with another one, repeated, behind it so that it has a length. -/
def paddedText (length : Int) (padding cs : List Char) : List Char :=
  let missing := length.toNat - cs.length
  cs ++ (List.replicate missing padding).flatten.take missing

/-- Functions of a text and one or no further one. -/
def searchText? (name : String) (text : String) (part : List Char) (others : List Value) :
    Option Value :=
  let cs := text.toList
  match name, others with
  | "index_of", [] => some (placeFrom part cs 0)
  | "index_of", [.whole start] => some (placeFrom part cs start.toInt)
  | "split", [] => some (textsOf (Text.pieces part cs))
  | "split", [.whole count] => some (textsOf (limited part count.toInt (Text.pieces part cs)))
  | "split_rev", [] => some (textsOf (piecesBack part cs none))
  | "split_rev", [.whole count] => some (textsOf (piecesBack part cs count.toInt))
  | _, _ => none

def textFunction? (name : String) (text : String) (others : List Value) : Option Outcome :=
  let cs := text.toList
  match name, others with
  | "len", [] => some (.ok (countValue cs.length))
  | "bytes", [] => some (.ok (countValue (Utf8.width cs)))
  | "is_empty", [] => some (.ok (.boolean (cs == [])))
  | "to_blob", [] => some (.ok (.bytes (Utf8.encode cs)))
  | "to_upper", [] => some (.ok (.text (Text.upper text)))
  | "to_lower", [] => some (.ok (.text (Text.lower text)))
  | "split", [] => some (.ok (textsOf (words cs)))
  | "split", [.whole index] => some (.ok (textsOf (cutText index.toInt cs)))
  | "parse_int", [] => some (parseWhole text 10)
  | "parse_int", [.whole radix] =>
    some (if 2 ≤ radix.toInt ∧ radix.toInt ≤ 36 then parseWhole text radix.toInt.toNat
      else .error (.badRadix radix.toInt))
  | "parse_float", [] => some (parseFloat text)
  | "get", [.whole index] => some (.ok (((itemAt? index.toInt cs).map Value.char).getD .null))
  | "starts_with", [part] => (chars? part).map fun part => .ok (.boolean (part.isPrefixOf cs))
  | "ends_with", [part] => (chars? part).map fun part => .ok (.boolean (part.isSuffixOf cs))
  | "to_chars", [] => some (.ok (.array (cs.map .char)))
  | "chars", [] => some (.ok (.series (.chars cs)))
  | "chars", [.whole start] => some (.ok (.series (.chars (textPart cs start.toInt maxWhole))))
  | "chars", others =>
    (Stretch.asked? others).map fun (start, count) =>
      .ok (.series (.chars (textPart cs start count)))
  | "sub_string", others =>
    (askedPart? cs others).map fun (start, count) => .ok (textValue (textPart cs start count))
  | name, part :: others => do
    let part ← chars? part
    return .ok (← searchText? name text part others)
  | _, _ => none

def textChange? (name : String) (text : String) (others : List Value) : Option Change :=
  let cs := text.toList
  match name, others with
  | "trim", [] => changed (.text (Text.trim text))
  | "clear", [] => changed (.text "")
  | "make_upper", [] => changed (.text (Text.upper text))
  | "make_lower", [] => changed (.text (Text.lower text))
  | "pop", [] => some (.ok ((cs.getLast?.map Value.char).getD .null, textValue cs.dropLast))
  | "pop", [.whole count] =>
    let stays := cs.length - count.toInt.toNat
    some (.ok (textValue (cs.drop stays), textValue (cs.take stays)))
  | "truncate", [.whole length] => changed (textValue (truncated length.toInt cs))
  | "set", [.whole index, .char c] => changed (textValue (setAt index.toInt c cs))
  | "append", [.bytes other] => changed (textValue (cs ++ Utf8.decodeLenient other))
  | "append", [other] => changed (textValue (cs ++ other.chars))
  | "remove", [.text part] =>
    changed (if part = "" then .text text else textValue (Text.replace part.toList [] cs))
  | "remove", [.char c] => changed (textValue (cs.filter (· != c)))
  | "replace", [old, new] => do
    changed (textValue (Text.replace (← chars? old) (← chars? new) cs))
  | "pad", [.whole length, padding] => do
    changed (textValue (paddedText length.toInt (← chars? padding) cs))
  | "crop", others => do
    let (start, count) ← askedPart? cs others
    changed (textValue (textPart cs start count))
  | _, _ => none

def charFunction? (name : String) (c : Char) (others : List Value) : Option Outcome :=
  match name, others with
  | "to_upper", [] => some (.ok (.char (mappedChar Text.upperChar c)))
  | "to_lower", [] => some (.ok (.char (mappedChar Text.lowerChar c)))
  | "to_int", [] => some (.ok (.whole (Int64.ofNat c.toNat)))
  | _, _ => none

def charChange? (name : String) (c : Char) (others : List Value) : Option Change :=
  match name, others with
  | "make_upper", [] => changed (.char (mappedChar Text.upperChar c))
  | "make_lower", [] => changed (.char (mappedChar Text.lowerChar c))
  | _, _ => none

end RowRecipe.Expression
