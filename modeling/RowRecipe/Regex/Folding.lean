import RowRecipe.Regex.Break
import RowRecipe.Text.Table.Cases

/-!
# Classes of letters, and case

The letters `d`, `s` and `w` name digits, blanks and characters of words. Where case does not count,
a class has all characters that differ by case from one of its own.
-/
namespace RowRecipe.Regex

open Text (CodeSet Category)

def digitCodes : CodeSet :=
  known Text.Table.decimalNumbers

/-- Characters of words, with the marks, digits and signs among them. -/
def wordCodes : CodeSet :=
  known (.unions [Text.alphabeticCodes, Text.Table.joinControls,
    Category.codesOf (Text.markCategories ++ [.decimalNumber, .connectorPunctuation])])

def LetterClass.codes : LetterClass → CodeSet
  | .digit => digitCodes
  | .space => blankCodes
  | .word => wordCodes

/-- The code points below 80 of such a class, in base sixteen. -/
def LetterClass.asciiCodes : LetterClass → CodeSet
  | .digit => .ofRanges [(0x30, 0x39)]
  | .space => .ofRanges [(9, 13), (0x20, 0x20)]
  | .word => .ofRanges [(0x30, 0x39), (0x41, 0x5A), (0x5F, 0x5F), (0x61, 0x7A)]

/-- Whether a character belongs to words. -/
def isWordChar (c : Char) : Bool :=
  if c.toNat < 0x80 then c.isAlphanum || c == '_' else wordCodes.holds c.toNat

/-- Whether a character belongs to words of the ASCII range. -/
def isAsciiWordChar (c : Char) : Bool :=
  c.isAlphanum || c == '_'

/-- Characters that stand for another one where case does not count, each with that one. -/
def foldPairs : List (Nat × Nat) :=
  (Text.Table.foldShifts.flatMap Text.CodeShift.pairs).filter fun (code, image) =>
    knownCodes.holds code && knownCodes.holds image

/-- A class with all that differ by case from its own, as some pairs tell. -/
def foldBy (pairs : List (Nat × Nat)) (set : CodeSet) : CodeSet :=
  let images := (pairs.filter fun (code, image) => set.holds code || set.holds image).map Prod.snd
  let touched := CodeSet.ofCodes images
  .unions [set, touched,
    .ofCodes ((pairs.filter fun (_, image) => touched.holds image).map Prod.fst)]

/-- Capital letters of the ASCII range with the small ones. -/
def asciiPairs : List (Nat × Nat) :=
  (List.range 26).map fun n => (0x41 + n, 0x61 + n)

end RowRecipe.Regex
