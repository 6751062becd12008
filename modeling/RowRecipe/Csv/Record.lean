import RowRecipe.Text.Utf8

/-!
# The records of a CSV text

A text is cut into records and fields byte by byte. A line feed or carriage return ends a record,
and those between records are passed over. A quote opens a quoted field only as its very first byte;
two quotes in such a field are one, a single one closes it, and whatever else stands behind the
closing quote belongs to the field. The end of the text ends a record wherever it stands.
-/
namespace RowRecipe.Csv

/-- A place in a text. -/
structure Mark where
  /-- The number of the line, from one on. -/
  line : Nat
  /-- The number of bytes in front. -/
  byte : Nat
  deriving Repr, DecidableEq

namespace Mark

def start : Mark := ⟨1, 0⟩

/-- The place behind a byte. -/
def after (mark : Mark) (b : UInt8) : Mark :=
  ⟨if b = 0x0A then mark.line + 1 else mark.line, mark.byte + 1⟩

end Mark

structure Record where
  fields : List (List UInt8)
  /-- The place behind the record before. -/
  mark : Mark
  deriving Repr, DecidableEq

inductive Mode where
  /-- Between two records. -/
  | between
  /-- At the front of a field. -/
  | front
  | plain
  | quoted
  /-- Behind a quote inside quotes. -/
  | closed
  deriving Repr, DecidableEq

/-- What a byte is. -/
inductive Role where
  /-- A part of the field. -/
  | content
  /-- No part of anything. -/
  | nothing
  | fieldEnd
  | recordEnd
  deriving Repr, DecidableEq

def quote : UInt8 := 0x22

def isLineEnd (b : UInt8) : Bool :=
  b == 0x0A || b == 0x0D

/-- The role of a byte outside quotes, and where the next byte stands. -/
def outside (delimiter b : UInt8) : Role × Mode :=
  if b = delimiter then (.fieldEnd, .front)
  else if isLineEnd b then (.recordEnd, .between)
  else (.content, .plain)

/-- The role of a byte, and where the next byte stands. -/
def role (delimiter : UInt8) (mode : Mode) (b : UInt8) : Role × Mode :=
  match mode with
  | .between =>
    if isLineEnd b then (.nothing, .between)
    else if b = quote then (.nothing, .quoted) else outside delimiter b
  | .front => if b = quote then (.nothing, .quoted) else outside delimiter b
  | .plain => outside delimiter b
  | .quoted => if b = quote then (.nothing, .closed) else (.content, .quoted)
  | .closed => if b = quote then (.content, .quoted) else outside delimiter b

/-- The record being read: where it begins, its fields and its last field so far, the latest part
of each first. -/
structure Draft where
  mark : Mark
  fields : List (List UInt8)
  field : List UInt8

namespace Draft

/-- The record that begins at a place. -/
def starting (mark : Mark) : Draft := ⟨mark, [], []⟩

def endField (draft : Draft) : Draft :=
  ⟨draft.mark, draft.field.reverse :: draft.fields, []⟩

def finish (draft : Draft) : Record :=
  ⟨draft.endField.fields.reverse, draft.mark⟩

end Draft

def recordsFrom (delimiter : UInt8) (mark : Mark) (mode : Mode) (draft : Draft) :
    List UInt8 → List Record
  | [] => if mode = .between then [] else [draft.finish]
  | b :: bytes =>
    match role delimiter mode b with
    | (.content, mode) =>
      recordsFrom delimiter (mark.after b) mode { draft with field := b :: draft.field } bytes
    | (.nothing, mode) => recordsFrom delimiter (mark.after b) mode draft bytes
    | (.fieldEnd, mode) => recordsFrom delimiter (mark.after b) mode draft.endField bytes
    | (.recordEnd, mode) =>
      draft.finish
        :: recordsFrom delimiter (mark.after b) mode (Draft.starting (mark.after b)) bytes

/-- The records of a text, which may begin with a byte order mark. -/
def records (delimiter : UInt8) : List UInt8 → List Record
  | 0xEF :: 0xBB :: 0xBF :: bytes => recordsFrom delimiter ⟨1, 3⟩ .between (.starting .start) bytes
  | bytes => recordsFrom delimiter .start .between (.starting .start) bytes

end RowRecipe.Csv
