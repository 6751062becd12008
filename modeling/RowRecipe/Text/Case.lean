import RowRecipe.Text.Category
import RowRecipe.Text.Table.Cases

/-!
# Upper and lower case

Changing the case maps each character by itself, to one character or to several. One letter looks
around: the capital sigma has a form of its own at the end of a word.
-/
namespace RowRecipe.Text

/-- A character as some shifts map it. -/
def shifted (shifts : List CodeShift) (c : Char) : Char :=
  Char.ofNat (CodeShift.image c.toNat shifts)

/-- The several characters that stand for one. -/
def expansion? (code : Nat) : List (Nat × List Nat) → Option (List Nat)
  | [] => none
  | (first, codes) :: expansions => if first = code then some codes else expansion? code expansions

def upperChar (c : Char) : List Char :=
  if c.toNat < 0x80 then [c.toUpper]
  else match expansion? c.toNat Table.upperExpansions with
    | some codes => codes.map Char.ofNat
    | none => [shifted Table.upperShifts c]

def lowerChar (c : Char) : List Char :=
  if c.toNat < 0x80 then [c.toLower]
  else if c = '\u0130' then ['i', '\u0307']
  else [shifted Table.lowerShifts c]

/-- Whether the first character that is not passed over has case. -/
def meetsCased (cs : List Char) : Bool :=
  match cs.dropWhile isCaseIgnorable with
  | [] => false
  | c :: _ => isCased c

/-- Lower case, `before` being what stands in front, the nearest first. -/
def lowerFrom (before : List Char) : List Char → List Char
  | [] => []
  | c :: cs =>
    (if c = 'Σ' then [if meetsCased before && !meetsCased cs then 'ς' else 'σ'] else lowerChar c)
      ++ lowerFrom (c :: before) cs

def upper (s : String) : String :=
  String.ofList (s.toList.flatMap upperChar)

def lower (s : String) : String :=
  String.ofList (lowerFrom [] s.toList)

end RowRecipe.Text
