import RowRecipe.Regex.Normal
import RowRecipe.Regex.Reading

/-!
# What a draft stands for

The flags that are set in front of a part decide what it matches. Where texts are not read as
Unicode, classes have bytes instead of characters, and since a match must not cut a character they
have bytes of the ASCII range only.
-/
namespace RowRecipe.Regex

open Text (CodeSet)

/-- The flags that hold at a place. -/
structure Flags where
  ignoreCase : Bool
  multiLine : Bool
  dotAll : Bool
  swapGreed : Bool
  unicode : Bool
  carriageReturn : Bool
  deriving Repr, DecidableEq

namespace Flags

def start : Flags :=
  ⟨false, false, false, false, true, false⟩

/-- The flags behind changes. -/
def change (flags : Flags) (changes : List (Flag × Bool)) : Flags :=
  ⟨changed changes .ignoreCase flags.ignoreCase, changed changes .multiLine flags.multiLine,
    changed changes .dotAll flags.dotAll, changed changes .swapGreed flags.swapGreed,
    changed changes .unicode flags.unicode,
    changed changes .carriageReturn flags.carriageReturn⟩

/-- A class as it is where case counts or not. -/
def fold (flags : Flags) (set : CodeSet) : CodeSet :=
  if !flags.ignoreCase then set
  else foldBy (if flags.unicode then foldPairs else asciiPairs) set

/-- A class that may be negated, at a span. -/
def orComplement (flags : Flags) (span : Span) (negated : Bool) (set : CodeSet) :
    Except SourceError CodeSet :=
  if !negated then .ok set
  else if flags.unicode then .ok set.complement
  else failAt span .invalidUtf8

end Flags

def Literal.meant (flags : Flags) (literal : Literal) : Except SourceError Char :=
  if !flags.unicode && literal.asByte && 0x80 ≤ literal.c.toNat then
    failAt literal.span .invalidUtf8
  else .ok literal.c

def Literal.meantInClass (flags : Flags) (literal : Literal) : Except SourceError Nat := do
  let c ← literal.meant flags
  if !flags.unicode && 0x80 ≤ c.toNat then failAt literal.span .unicodeNotAllowed
  return c.toNat

def LetterClass.meant (flags : Flags) (span : Span) (negated : Bool) (letterClass : LetterClass) :
    Except SourceError CodeSet :=
  flags.orComplement span negated
    (if flags.unicode then letterClass.codes else letterClass.asciiCodes)

def PropertyName.meant (flags : Flags) (span : Span) (negated : Bool) (name : PropertyName) :
    Except SourceError CodeSet :=
  if !flags.unicode then failAt span .unicodeNotAllowed
  else
    match name.codes with
    | .ok codes => flags.orComplement span negated (flags.fold codes)
    | .error problem => failAt span problem

def SetOperator.apply (operator : SetOperator) (left right : CodeSet) : CodeSet :=
  match operator with
  | .intersection => left.intersection right
  | .difference => left.difference right
  | .symmetricDifference => left.symmetricDifference right

mutual

def ClassDraft.codes (flags : Flags) : ClassDraft → Except SourceError CodeSet
  | .empty _ => .ok .empty
  | .literal found => (found.meantInClass flags).map fun code => .ofCodes [code]
  | .range _ first last => do
    let first ← first.meantInClass flags
    let last ← last.meantInClass flags
    return .ofRanges [(first, last)]
  | .ascii span codes negated => flags.orComplement span negated (flags.fold codes)
  | .letter span letterClass negated => letterClass.meant flags span negated
  | .property span name negated => name.meant flags span negated
  | .brackets span inner negated => do
    flags.orComplement span negated (flags.fold (← inner.codes flags))
  | .union _ items => (ClassDraft.codesOfAll flags items).map CodeSet.unions
  | .operation _ operator left right => do
    let left ← left.codes flags
    let right ← right.codes flags
    return operator.apply (flags.fold left) (flags.fold right)

def ClassDraft.codesOfAll (flags : Flags) : List ClassDraft → Except SourceError (List CodeSet)
  | [] => .ok []
  | item :: items => do
    let set ← item.codes flags
    let sets ← ClassDraft.codesOfAll flags items
    return set :: sets

end

def Anchor.meant (flags : Flags) : Anchor → Place
  | .caret =>
    if !flags.multiLine then .textStart
    else if flags.carriageReturn then .returnLineStart
    else .lineStart
  | .dollar =>
    if !flags.multiLine then .textEnd
    else if flags.carriageReturn then .returnLineEnd
    else .lineEnd
  | .textStart => .textStart
  | .textEnd => .textEnd
  | .wordBoundary => .wordBoundary !flags.unicode
  | .notWordBoundary => .notWordBoundary !flags.unicode
  | .wordStart => .wordStart !flags.unicode
  | .wordEnd => .wordEnd !flags.unicode
  | .wordStartHalf => .wordStartHalf !flags.unicode
  | .wordEndHalf => .wordEndHalf !flags.unicode

def dotCodes (flags : Flags) (span : Span) : Except SourceError CodeSet :=
  if !flags.unicode then failAt span .invalidUtf8
  else if flags.dotAll then .ok .full
  else
    .ok (CodeSet.ofCodes (if flags.carriageReturn then [0xA, 0xD] else [0xA])).complement

mutual

def Draft.tree (flags : Flags) : Draft → Except SourceError (Tree × Flags)
  | .empty _ => .ok (.empty, flags)
  | .flags _ changes => .ok (.empty, flags.change changes)
  | .literal found =>
    (found.meant flags).map fun c => (.ofCodes (flags.fold (.ofCodes [c.toNat])), flags)
  | .dot span => (dotCodes flags span).map fun codes => (.ofCodes codes, flags)
  | .anchor _ place => .ok (.place (place.meant flags), flags)
  | .letter span letterClass negated =>
    (letterClass.meant flags span negated).map fun codes => (.ofCodes codes, flags)
  | .property span name negated =>
    (name.meant flags span negated).map fun codes => (.ofCodes codes, flags)
  | .brackets span inner negated => do
    let codes ← inner.codes flags
    let codes ← flags.orComplement span negated (flags.fold codes)
    return (.ofCodes codes, flags)
  | .repetition _ inner least most greedy => do
    let (inner, flags) ← inner.tree flags
    return (.repeated inner least most (greedy != flags.swapGreed), flags)
  | .group _ number changes inner => do
    let (inner, _) ← inner.tree (flags.change changes)
    match number with
    | some number => return (.group number inner, flags)
    | none => return (inner, flags)
  | .alternation _ parts =>
    (Draft.trees flags parts).map fun (trees, flags) => (Tree.among trees, flags)
  | .concat _ parts => (Draft.trees flags parts).map fun (trees, flags) => (Tree.inRow trees, flags)

/-- The trees of some drafts one after another, and the flags behind them. -/
def Draft.trees (flags : Flags) : List Draft → Except SourceError (List Tree × Flags)
  | [] => .ok ([], flags)
  | part :: parts => do
    let (tree, flags) ← part.tree flags
    let (trees, flags) ← Draft.trees flags parts
    return (tree :: trees, flags)

end

end RowRecipe.Regex
