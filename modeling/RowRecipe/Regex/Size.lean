import RowRecipe.Regex.Extent
import RowRecipe.Regex.Tree

/-!
# How large a program is

The size of a program is reckoned before it is made, so that an expression with large counts is
refused at once. Programs are reckoned over the bytes of a text, once for reading it forward and
once for reading it backward, and neither of the two may be too large.
-/
namespace RowRecipe.Regex

/-- The parts of a list between the items that are empty lists. -/
def stretches {α : Type} : List (List α) → List (List (List α))
  | [] => [[]]
  | [] :: items => [] :: stretches items
  | item :: items =>
    match stretches items with
    | stretch :: others => (item :: stretch) :: others
    | [] => [[item]]

/-- The part of a program that tells texts of at most so many bytes apart byte by byte. Where a text
ends, the texts behind it are looked at on a way of their own. -/
def textsExtent : Nat → List (List UInt8) → Extent
  | 0, _ => ⟨0, 0⟩
  | bytes + 1, texts =>
    let texts :=
      if texts.head?.any List.isEmpty then [] :: texts.dropWhile List.isEmpty else texts
    let ways := (stretches texts).map fun stretch =>
      (stretch.filterMap List.head?).eraseDups.map fun byte =>
        (stretch.filter (·.head? == some byte)).map List.tail
    let inner := (ways.flatten.filter fun rests => !rests.all List.isEmpty).map
      (textsExtent bytes)
    let forks := ways.filter (!·.isEmpty)
    let ranged := (forks.map List.length).filter (1 < ·)
    ⟨(inner.map Extent.states).sum + forks.length + 1,
      (inner.map Extent.beside).sum + rangedWaySize * ranged.sum
        + waySize * (forks.length + ways.length - 1)⟩

/-- The bytes of a text in a direction. -/
def bytesOf (direction : Direction) (cs : List Char) : List UInt8 :=
  direction.order (cs.flatMap String.utf8EncodeChar)

def reckonTexts (direction : Direction) (texts : List (List Char)) : Reckoning Ending := do
  let texts := texts.map (bytesOf direction)
  let _ ← addState 0
  grow (textsExtent ((texts.map List.length).foldl max 0) texts)
  return .plain

/-- Reckons parts behind another one. -/
def reckonBehind (ending : Ending) : List (Reckoning Ending) → Reckoning Ending
  | [] => return ending
  | part :: parts => do
    let next ← part
    ending.connect
    reckonBehind next parts

def reckonRow : List (Reckoning Ending) → Reckoning Ending
  | [] => do
    let _ ← addState 0
    return .plain
  | part :: parts => do reckonBehind (← part) parts

/-- Reckons a part so many times behind another one. -/
def reckonCopiesBehind (part : Reckoning Ending) : Nat → Ending → Reckoning Ending
  | 0, ending => return ending
  | count + 1, ending => do
    let next ← part
    ending.connect
    reckonCopiesBehind part count next

def reckonCopies (part : Reckoning Ending) : Nat → Reckoning Ending
  | 0 => reckonRow []
  | count + 1 => do reckonCopiesBehind part count (← part)

/-- Reckons alternatives behind the first two. -/
def reckonOthers : List (Reckoning Ending) → Reckoning Ending
  | [] => return .plain
  | part :: parts => do
    let ending ← part
    grow ⟨0, waySize⟩
    ending.connect
    reckonOthers parts

def reckonChoice : List (Reckoning Ending) → Reckoning Ending
  | [] => reckonRow []
  | [part] => part
  | first :: second :: parts => do
    let first ← first
    let second ← second
    grow ⟨2, 2 * waySize⟩
    first.connect
    second.connect
    reckonOthers parts

/-- Reckons a part so many times at most, each time only behind the time before, behind another
part. -/
def reckonOptionalBehind (part : Reckoning Ending) : Nat → Ending → Reckoning Unit
  | 0, ending => ending.connect
  | count + 1, ending => do
    let _ ← addState (2 * waySize)
    let next ← part
    ending.connect
    reckonOptionalBehind part count next

/-- Reckons a repetition of a part. -/
def reckonRepetition (part : Reckoning Ending) (solid : Bool) :
    Nat → Option Nat → Reckoning Ending
  | 0, some 1 => do
    let _ ← addState (2 * waySize)
    let ending ← part
    let _ ← addState 0
    ending.connect
    return .plain
  | 0, none =>
    if solid then do
      let _ ← addState waySize
      let ending ← part
      ending.connect
      return .fork
    else do
      let ending ← part
      grow ⟨3, 4 * waySize⟩
      ending.connect
      return .plain
  | least + 1, none => do
    let ending ← reckonCopies part (least + 1)
    let _ ← addState waySize
    ending.connect
    return .fork
  | least, some most => do
    let ending ← reckonCopies part least
    if most ≤ least then return ending
    let _ ← addState 0
    reckonOptionalBehind part (most - least) ending
    return .plain

def Tree.text? : Tree → Option (List Char)
  | .text cs => some cs
  | _ => none

mutual

/-- Reckons a tree. Groups are noted only where a text is read forward. -/
def Tree.reckon (direction : Direction) : Tree → Reckoning Ending
  | .empty | .place _ => reckonRow []
  | .text cs => do
    grow ⟨(bytesOf direction cs).length, 0⟩
    return .plain
  | .char codes => do
    reckonClass direction codes
    return .plain
  | .group _ inner =>
    match direction with
    | .backward => inner.reckon direction
    | .forward => do
      let _ ← addState 0
      let ending ← inner.reckon direction
      let _ ← addState 0
      ending.connect
      return .plain
  | .row parts => reckonRow (direction.order (Tree.reckonings direction parts))
  | .choice parts =>
    match parts.mapM Tree.text? with
    | some texts => reckonTexts direction texts
    | none => reckonChoice (Tree.reckonings direction parts)
  | .repetition inner least most _ =>
    reckonRepetition (inner.reckon direction) inner.isSolid least most

def Tree.reckonings (direction : Direction) : List Tree → List (Reckoning Ending)
  | [] => []
  | part :: parts => part.reckon direction :: Tree.reckonings direction parts

end

/-- The end of a text that a program meets with first in a direction. -/
def Direction.edge : Direction → Place
  | .forward => .textStart
  | .backward => .textEnd

mutual

/-- Whether a tree matches only at the end of a text that is met with first in a direction. -/
def Tree.isAnchored (direction : Direction) : Tree → Bool
  | .empty | .text _ | .char _ => false
  | .place spot => spot == direction.edge
  | .group _ inner => inner.isAnchored direction
  | .row parts =>
    let (hollow, others) := (direction.order (Tree.anchoredParts direction parts)).span Prod.snd
    hollow.any Prod.fst || others.head?.any Prod.fst
  | .choice parts => (Tree.anchoredParts direction parts).all Prod.fst
  | .repetition inner least _ _ => 0 < least && inner.isAnchored direction

/-- Whether each of some trees matches only there, and whether it matches no character. -/
def Tree.anchoredParts (direction : Direction) : List Tree → List (Bool × Bool)
  | [] => []
  | part :: parts =>
    (part.isAnchored direction, part.isHollow) :: Tree.anchoredParts direction parts

end

/-- Reckons the program of a tree in a direction. In front it passes any bytes, unless a match can
be only at the end of the text. -/
def Tree.reckonProgram (direction : Direction) (tree : Tree) : Reckoning Unit := do
  if tree.isAnchored direction then grow ⟨1, 0⟩
  else grow ⟨3, rangedWaySize + 2 * waySize⟩
  let ending ← (Tree.group 0 tree).reckon direction
  let _ ← addState 0
  ending.connect

/-- Whether the programs of a tree are not too large. -/
def Tree.fits (tree : Tree) : Bool :=
  [Direction.forward, .backward].all fun direction =>
    (tree.reckonProgram direction ⟨0, 0⟩).isSome

end RowRecipe.Regex
