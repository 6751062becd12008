import RowRecipe.Regex.Tree

/-!
# Trees in normal form

Trees are built in a normal form. A class with one character is a text; rows and choices do not lie
directly in others of their kind, and have at least two parts. In a row no part is empty, and no
text follows a text. A choice among single characters, or among classes, is a class; where all
alternatives are rows that begin alike, the common parts are in front of the choice. What matches no
character is not repeated.
-/
namespace RowRecipe.Regex.Tree

open Text (CodeSet)

/-- One character of a class. -/
def ofCodes (codes : CodeSet) : Tree :=
  match codes.ranges.toList with
  | [(first, last)] => if first = last then .text [Char.ofNat first] else .char codes
  | _ => .char codes

def parts : Tree → List Tree
  | .empty => []
  | .row parts => parts
  | tree => [tree]

/-- Joins texts that follow each other. -/
def joinTexts : List Tree → List Tree
  | [] => []
  | .text cs :: trees =>
    match joinTexts trees with
    | .text others :: joined => .text (cs ++ others) :: joined
    | joined => .text cs :: joined
  | tree :: trees => tree :: joinTexts trees

def inRow (trees : List Tree) : Tree :=
  match joinTexts (trees.flatMap parts) with
  | [] => .empty
  | [part] => part
  | parts => .row parts

def alternatives : Tree → List Tree
  | .choice parts => parts
  | tree => [tree]

/-- The code point of a text of one character. -/
def singleCode? : Tree → Option Nat
  | .text [c] => some c.toNat
  | _ => none

def class? : Tree → Option CodeSet
  | .char codes => some codes
  | _ => none

/-- A choice among trees that need not begin alike. -/
def plainChoice (trees : List Tree) : Tree :=
  match trees.flatMap alternatives with
  | [] => .char .empty
  | [part] => part
  | parts =>
    match parts.mapM singleCode?, parts.mapM class? with
    | some codes, _ => ofCodes (.ofCodes codes)
    | none, some classes => ofCodes (.unions classes)
    | none, none => .choice parts

def row? : Tree → Option (List Tree)
  | .row parts => some parts
  | _ => none

/-- What two rows begin alike with. -/
def commonFront : List Tree → List Tree → List Tree
  | left :: lefts, right :: rights =>
    if left.same right then left :: commonFront lefts rights else []
  | _, _ => []

/-- Some rows with what all of them begin alike with in front of a choice among the rest. What
follows in a choice is no choice among rows that begin alike, so no more can be taken out. -/
def factored? (rows : List (List Tree)) : Option Tree :=
  match rows with
  | first :: second :: others =>
    let front := (second :: others).foldl commonFront first
    if front.isEmpty then none
    else
      let rests := rows.map fun row => inRow (row.drop front.length)
      some (inRow (front ++ [plainChoice rests]))
  | _ => none

/-- A choice among some trees. -/
def among (trees : List Tree) : Tree :=
  (((trees.flatMap alternatives).mapM row?).bind factored?).getD (plainChoice trees)

/-- A tree at least and at most so many times. -/
def repeated (inner : Tree) (least : Nat) (most : Option Nat) (greedy : Bool) : Tree :=
  let (least, most) :=
    if inner.isHollow then (min least 1, some ((most.map (min · 1)).getD 1)) else (least, most)
  if most = some 0 then .empty
  else if least = 1 ∧ most = some 1 then inner
  else .repetition inner least most greedy

end RowRecipe.Regex.Tree
