import RowRecipe.Regex.Problem
import RowRecipe.Text.Blank

/-!
# Going through the text of a regular expression

A cursor stands between two characters. Where the text is loose, blanks and comments do not count:
they are passed together with what stands in front of them.
-/
namespace RowRecipe.Regex

/-- The characters that are left, the number of those in front of them, and whether the text is
loose here. -/
structure Cursor where
  rest : List Char
  place : Nat
  loose : Bool

namespace Cursor

def next? (cursor : Cursor) : Option Char :=
  cursor.rest.head?

/-- Passes so many characters. -/
def pass (cursor : Cursor) (count : Nat) : Cursor :=
  ⟨cursor.rest.drop count, cursor.place + min count cursor.rest.length, cursor.loose⟩

/-- The span of the next character. -/
def charSpan (cursor : Cursor) : Span :=
  ⟨cursor.place, (cursor.pass 1).place⟩

/-- The span of no characters. -/
def point (cursor : Cursor) : Span :=
  ⟨cursor.place, cursor.place⟩

/-- The span from an earlier place on. -/
def since (cursor : Cursor) (first : Nat) : Span :=
  ⟨first, cursor.place⟩

/-- The number of blanks and characters of comments in front. -/
def spaceCount (inComment : Bool) : List Char → Nat
  | [] => 0
  | c :: cs =>
    if inComment then spaceCount (c != '\n') cs + 1
    else if Text.isBlank c then spaceCount false cs + 1
    else if c = '#' then spaceCount true cs + 1
    else 0

/-- Passes blanks and comments where they do not count. -/
def passSpace (cursor : Cursor) : Cursor :=
  if cursor.loose then cursor.pass (spaceCount false cursor.rest) else cursor

/-- Passes the next character, and the blanks and comments behind it. -/
def bump (cursor : Cursor) : Cursor :=
  (cursor.pass 1).passSpace

/-- Passes blanks, whether they count or not. -/
def passBlanks (cursor : Cursor) : Cursor :=
  cursor.pass (cursor.rest.takeWhile Text.isBlank).length

def passText? (cursor : Cursor) (text : String) : Option Cursor :=
  if text.toList.isPrefixOf cursor.rest then some (cursor.pass text.length) else none

/-- What follows a sign of comment, its mark and blanks. -/
def behindMark (cs : List Char) : List Char :=
  match Text.dropBlank cs with
  | '#' :: rest => Text.dropBlank rest
  | rest => rest

/-- The character behind the next one; where the text is loose, blanks and one sign of comment
between the two do not count, unless nothing follows them. -/
def ahead? (cursor : Cursor) : Option Char :=
  let behind := cursor.rest.tail
  if cursor.loose then (behindMark behind).head?.or behind.head? else behind.head?

/-- The characters that hold a condition, each of them passed with the space behind it. -/
def takeFrom (holds : Char → Bool) : Nat → Cursor → List Char × Cursor
  | 0, cursor => ([], cursor)
  | bound + 1, cursor =>
    match cursor.next? with
    | none => ([], cursor)
    | some c =>
      if holds c then
        let (taken, cursor) := takeFrom holds bound cursor.bump
        (c :: taken, cursor)
      else ([], cursor)

/-- The characters up to one that does not hold a condition, each passed with the space behind
it. -/
def take (cursor : Cursor) (holds : Char → Bool) : List Char × Cursor :=
  takeFrom holds cursor.rest.length cursor

end Cursor

end RowRecipe.Regex
