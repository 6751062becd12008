import RowRecipe.Regex.Problem
import RowRecipe.Text.CodeSet

/-!
# Regular expressions as they are written

A draft keeps the parts of a regular expression as they are written, each with its span. What the
parts stand for hangs on flags, which are set in front of them, and is decided later.
-/
namespace RowRecipe.Regex

/-- How what follows is to be understood. -/
inductive Flag where
  | ignoreCase | multiLine | dotAll | swapGreed | unicode | carriageReturn | ignoreSpace
  deriving Repr, DecidableEq

/-- Places that have a sign. -/
inductive Anchor where
  | caret | dollar | textStart | textEnd
  | wordBoundary | notWordBoundary | wordStart | wordEnd | wordStartHalf | wordEndHalf
  deriving Repr, DecidableEq

/-- A character that stands for itself, and whether its code point has two digits of base sixteen,
which can also be the digits of a byte. -/
structure Literal where
  span : Span
  c : Char
  asByte : Bool
  deriving Repr, DecidableEq

/-- Classes with a letter of their own. -/
inductive LetterClass where
  | digit | space | word
  deriving Repr, DecidableEq

/-- A class by the name of a property, or of a property and its value. -/
inductive PropertyName where
  | alone (name : String)
  | withValue (name value : String)
  deriving Repr, DecidableEq

/-- Operators between the parts of a class. -/
inductive SetOperator where
  | intersection | difference | symmetricDifference
  deriving Repr, DecidableEq

/-- What stands between brackets. -/
inductive ClassDraft where
  | empty (span : Span)
  | literal (literal : Literal)
  | range (span : Span) (first last : Literal)
  | ascii (span : Span) (codes : Text.CodeSet) (negated : Bool)
  | letter (span : Span) (letterClass : LetterClass) (negated : Bool)
  | property (span : Span) (name : PropertyName) (negated : Bool)
  | brackets (span : Span) (inner : ClassDraft) (negated : Bool)
  | union (span : Span) (items : List ClassDraft)
  | operation (span : Span) (operator : SetOperator) (left right : ClassDraft)
  deriving Repr

/-- A regular expression with the spans of its parts. -/
inductive Draft where
  | empty (span : Span)
  | flags (span : Span) (changes : List (Flag × Bool))
  | literal (literal : Literal)
  | dot (span : Span)
  | anchor (span : Span) (anchor : Anchor)
  | letter (span : Span) (letterClass : LetterClass) (negated : Bool)
  | property (span : Span) (name : PropertyName) (negated : Bool)
  | brackets (span : Span) (inner : ClassDraft) (negated : Bool)
  | repetition (span : Span) (inner : Draft) (least : Nat) (most : Option Nat) (greedy : Bool)
  /-- A group may have a number, and flags that are set inside it. -/
  | group (span : Span) (number : Option Nat) (changes : List (Flag × Bool)) (inner : Draft)
  | alternation (span : Span) (parts : List Draft)
  | concat (span : Span) (parts : List Draft)
  deriving Repr

def ClassDraft.span : ClassDraft → Span
  | .literal found => found.span
  | .empty span | .range span _ _ | .ascii span _ _ | .letter span _ _ | .property span _ _
  | .brackets span _ _ | .union span _ | .operation span _ _ _ => span

def Draft.span : Draft → Span
  | .literal found => found.span
  | .empty span | .flags span _ | .dot span | .anchor span _ | .letter span _ _
  | .property span _ _ | .brackets span _ _ | .repetition span _ _ _ _ | .group span _ _ _
  | .alternation span _ | .concat span _ => span

mutual

/-- The first part, from outside to inside, that lies in more than so many others. -/
def ClassDraft.tooDeep? : Nat → ClassDraft → Option Span
  | room, .brackets span inner _ =>
    if room = 0 then some span else inner.tooDeep? (room - 1)
  | room, .union span items =>
    if room = 0 then some span else ClassDraft.anyTooDeep? (room - 1) items
  | room, .operation span _ left right =>
    if room = 0 then some span
    else (left.tooDeep? (room - 1)).or (right.tooDeep? (room - 1))
  | _, _ => none

/-- The first part of some classes that lies in more than so many others. -/
def ClassDraft.anyTooDeep? : Nat → List ClassDraft → Option Span
  | _, [] => none
  | room, item :: items => (item.tooDeep? room).or (ClassDraft.anyTooDeep? room items)

end

mutual

/-- The first part, from outside to inside, that lies in more than so many others. -/
def Draft.tooDeep? : Nat → Draft → Option Span
  | room, .brackets span inner _ =>
    if room = 0 then some span else inner.tooDeep? (room - 1)
  | room, .repetition span inner _ _ _ =>
    if room = 0 then some span else inner.tooDeep? (room - 1)
  | room, .group span _ _ inner => if room = 0 then some span else inner.tooDeep? (room - 1)
  | room, .alternation span parts =>
    if room = 0 then some span else Draft.anyTooDeep? (room - 1) parts
  | room, .concat span parts =>
    if room = 0 then some span else Draft.anyTooDeep? (room - 1) parts
  | _, _ => none

/-- The first part of some drafts that lies in more than so many others. -/
def Draft.anyTooDeep? : Nat → List Draft → Option Span
  | _, [] => none
  | room, part :: parts => (part.tooDeep? room).or (Draft.anyTooDeep? room parts)

end

end RowRecipe.Regex
