import RowRecipe.Regex.Folding

/-!
# Trees of regular expressions

A tree matches parts of a text: characters of classes, places between characters, and sequences,
choices and repetitions of such. Groups mark what they match by a number.
-/
namespace RowRecipe.Regex

/-- Places between characters. -/
inductive Place where
  | textStart | textEnd | lineStart | lineEnd
  /-- Lines may end by a carriage return, a line feed or both. -/
  | returnLineStart | returnLineEnd
  /-- Places in front of words and behind them; words may be of the ASCII range. -/
  | wordBoundary (ascii : Bool) | notWordBoundary (ascii : Bool)
  | wordStart (ascii : Bool) | wordEnd (ascii : Bool)
  | wordStartHalf (ascii : Bool) | wordEndHalf (ascii : Bool)
  deriving Repr, DecidableEq

/-- Whether a word has a character, if there is one. -/
def inWord (ascii : Bool) (c : Option Char) : Bool :=
  c.any fun c => if ascii then isAsciiWordChar c else isWordChar c

/-- Whether a place lies between two characters, missing ones being beyond the ends. -/
def Place.holds (before after : Option Char) : Place → Bool
  | .textStart => before.isNone
  | .textEnd => after.isNone
  | .lineStart => before.all (· == '\n')
  | .lineEnd => after.all (· == '\n')
  | .returnLineStart => before.all fun c => c == '\n' || c == '\r' && after != some '\n'
  | .returnLineEnd => after.all fun c => c == '\r' || c == '\n' && before != some '\r'
  | .wordBoundary ascii => inWord ascii before != inWord ascii after
  | .notWordBoundary ascii => inWord ascii before == inWord ascii after
  | .wordStart ascii => !inWord ascii before && inWord ascii after
  | .wordEnd ascii => inWord ascii before && !inWord ascii after
  | .wordStartHalf ascii => !inWord ascii before
  | .wordEndHalf ascii => !inWord ascii after

inductive Tree where
  | empty
  /-- These characters in a row. -/
  | text (cs : List Char)
  /-- One character of a class. -/
  | char (codes : Text.CodeSet)
  | place (place : Place)
  | group (number : Nat) (inner : Tree)
  | row (parts : List Tree)
  /-- The first alternative is preferred. -/
  | choice (parts : List Tree)
  /-- At least and at most so many times, as many as possible or as few. -/
  | repetition (inner : Tree) (least : Nat) (most : Option Nat) (greedy : Bool)

mutual

/-- The least number of characters that a tree matches; nothing is known of a class without
characters. -/
def Tree.leastLength : Tree → Option Nat
  | .empty | .place _ => some 0
  | .text cs => some cs.length
  | .char codes => if codes.isEmpty then none else some 1
  | .group _ inner => inner.leastLength
  | .row parts => (Tree.leastLengths parts).map List.sum
  | .choice parts => (Tree.leastLengths parts).bind List.min?
  | .repetition inner least _ _ => inner.leastLength.map (least * ·)

def Tree.leastLengths : List Tree → Option (List Nat)
  | [] => some []
  | part :: parts => do return (← part.leastLength) :: (← Tree.leastLengths parts)

end

/-- Whether a tree matches no text without characters. -/
def Tree.isSolid (tree : Tree) : Bool :=
  tree.leastLength.any (0 < ·)

mutual

/-- Whether a tree matches no text with characters. -/
def Tree.isHollow : Tree → Bool
  | .empty | .place _ => true
  | .text cs => cs.isEmpty
  | .char _ => false
  | .group _ inner => inner.isHollow
  | .row parts => Tree.areHollow parts
  | .choice parts => Tree.areHollow parts
  | .repetition inner _ _ _ => inner.isHollow

/-- Whether none of some trees matches a text with characters. -/
def Tree.areHollow : List Tree → Bool
  | [] => true
  | part :: parts => part.isHollow && Tree.areHollow parts

end

mutual

def Tree.same : Tree → Tree → Bool
  | .empty, .empty => true
  | .text left, .text right => left == right
  | .char left, .char right => left == right
  | .place left, .place right => left == right
  | .group number left, .group other right => number == other && left.same right
  | .row left, .row right => Tree.allSame left right
  | .choice left, .choice right => Tree.allSame left right
  | .repetition left least most greedy, .repetition right least' most' greedy' =>
    least == least' && most == most' && greedy == greedy' && left.same right
  | _, _ => false

def Tree.allSame : List Tree → List Tree → Bool
  | [], [] => true
  | left :: lefts, right :: rights => left.same right && Tree.allSame lefts rights
  | _, _ => false

end

end RowRecipe.Regex
