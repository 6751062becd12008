import RowRecipe.Regex.Meaning
import RowRecipe.Regex.Program
import RowRecipe.Regex.Size
import RowRecipe.Regex.Template

/-!
# Regular expressions

A regular expression replaces its matches in a text, from left to right and without overlaps. Of the
matches that begin leftmost the preferred one counts, and an empty match right behind another match
does not.
-/
namespace RowRecipe

structure Regex where
  program : Regex.Program
  /-- The numbers of groups with names. -/
  names : List (String × Nat)

namespace Regex

def compile (text : String) : Except Refusal Regex :=
  match Source.parse text with
  | .error fault => .error (.unreadable fault)
  | .ok source =>
    match source.draft.tree .start with
    | .error fault => .error (.unreadable fault)
    | .ok (tree, _) =>
      if tree.fits then .ok ⟨Program.ofTree tree source.groupCount, source.names⟩
      else .error .tooLarge

/-- Passes so many characters: the last one of them, or the one before, and the rest. -/
def passChars : Nat → Option Char → List Char → Option Char × List Char
  | count + 1, _, c :: cs => passChars count (some c) cs
  | _, before, cs => (before, cs)

/-- The notes of the next match behind a place where a match ended, or at the start. -/
def nextMatch? (program : Program) (before : Option Char) (position : Nat) (ended : Bool)
    (cs : List Char) : Option Slots :=
  match program.find? before position cs with
  | none => none
  | some slots =>
    if ended ∧ span? slots 0 = some (position, position) then
      match cs with
      | [] => none
      | c :: cs => program.find? (some c) (position + 1) cs
    else some slots

/-- The notes of all matches; each one passes a character or is the last but one. -/
def matchesFrom (program : Program) : Nat → Option Char → Nat → Bool → List Char → List Slots
  | 0, _, _, _, _ => []
  | bound + 1, before, position, ended, cs =>
    match nextMatch? program before position ended cs with
    | none => []
    | some slots =>
      let beyond := ((span? slots 0).map Prod.snd).getD position
      let (before, rest) := passChars (beyond - position) before cs
      slots :: matchesFrom program bound before beyond true rest

/-- The characters from one position to in front of another one. -/
def slice (cs : List Char) (first beyond : Nat) : List Char :=
  (cs.drop first).take (beyond - first)

def groupChars (cs : List Char) (slots : Slots) (group : Nat) : List Char :=
  match span? slots group with
  | some (first, beyond) => slice cs first beyond
  | none => []

def expand (regex : Regex) (cs : List Char) (slots : Slots) : TemplatePart → List Char
  | .char c => [c]
  | .number group => groupChars cs slots group
  | .name name =>
    match regex.names.find? fun entry => entry.1 == name with
    | some (_, group) => groupChars cs slots group
    | none => []

/-- Puts what a template makes of each match in its place, from a position on. -/
def replaceFrom (regex : Regex) (template : List TemplatePart) (cs : List Char) :
    Nat → List Slots → List Char
  | position, [] => cs.drop position
  | position, slots :: others =>
    let (first, beyond) := (span? slots 0).getD (position, position)
    slice cs position first ++ template.flatMap (regex.expand cs slots)
      ++ replaceFrom regex template cs beyond others

def replaceAll (regex : Regex) (template text : String) : String :=
  let cs := text.toList
  let found := matchesFrom regex.program (cs.length + 2) none 0 false cs
  String.ofList (replaceFrom regex (readTemplate 0 template.toList) cs 0 found)

end Regex

end RowRecipe
