import RowRecipe.Text.Blank

/-!
# Cutting a text into pieces

Splitting cuts at each leftmost occurrence of a separator, occurrences that overlap an earlier one
not counting; joining the pieces with the separator gives the text back. Lines are the pieces
between line feeds, less a carriage return in front of a line feed.
-/
namespace RowRecipe.Text

/-- Puts a character in front of the first piece. -/
def consFirst (c : Char) : List (List Char) → List (List Char)
  | [] => [[c]]
  | piece :: pieces => (c :: piece) :: pieces

/-- The pieces between the separators; `skip` characters of a separator are still to be passed. -/
def splitFrom (separator : List Char) : Nat → List Char → List (List Char)
  | _, [] => [[]]
  | skip + 1, _ :: cs => splitFrom separator skip cs
  | 0, c :: cs =>
    if separator.isPrefixOf (c :: cs) then
      [] :: splitFrom separator (separator.length - 1) cs
    else
      consFirst c (splitFrom separator 0 cs)

/-- The pieces of a text between the leftmost occurrences of a non-empty separator. -/
def split (separator text : String) : List String :=
  (splitFrom separator.toList 0 text.toList).map String.ofList

/-- The number of characters in front of the first occurrence of a text. -/
def find? (wanted : List Char) : List Char → Option Nat
  | [] => if wanted = [] then some 0 else none
  | c :: cs => if wanted.isPrefixOf (c :: cs) then some 0 else (find? wanted cs).map (· + 1)

/-- The pieces of a text between the leftmost occurrences of a separator, which may be empty: then
each character is a piece between two empty ones at the ends. -/
def pieces (separator cs : List Char) : List (List Char) :=
  if separator = [] then [] :: (cs.map ([·]) ++ [[]]) else splitFrom separator 0 cs

/-- The pieces between the occurrences of one character. -/
def splitAt (separator : Char) : List Char → List (List Char)
  | [] => [[]]
  | c :: cs =>
    if c = separator then [] :: splitAt separator cs else consFirst c (splitAt separator cs)

/-- The pieces one after another with the separator between them. -/
def joinWith (separator : List Char) : List (List Char) → List Char
  | [] => []
  | [piece] => piece
  | piece :: pieces => piece ++ separator ++ joinWith separator pieces

/-- The texts one after another with the separator between them. -/
def join (separator : String) (texts : List String) : String :=
  String.ofList (joinWith separator.toList (texts.map String.toList))

theorem join_single (separator text : String) : join separator [text] = text := by
  simp [join, joinWith]

theorem join_cons_cons (separator text next : String) (texts : List String) :
    join separator (text :: next :: texts) =
      text ++ separator ++ join separator (next :: texts) := by
  rw [← String.toList_inj]
  simp [join, joinWith]

/-- A line that a line feed ends, without the carriage return at its end. -/
def dropReturn (line : List Char) : List Char :=
  if line.getLast? = some '\r' then line.dropLast else line

/-- Puts a text in the place of all occurrences of another one. -/
def replace (old new cs : List Char) : List Char :=
  joinWith new (pieces old cs)

/-- The lines among the pieces between line feeds: the last piece has no line feed after it, and is
a line only if it is not empty. -/
def linesOfPieces : List (List Char) → List (List Char)
  | [] => []
  | [last] => if last = [] then [] else [last]
  | piece :: pieces => dropReturn piece :: linesOfPieces pieces

/-- The lines of a text. -/
def lines (text : String) : List String :=
  (linesOfPieces (splitAt '\n' text.toList)).map String.ofList

end RowRecipe.Text
