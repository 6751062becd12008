import RowRecipe.Text.Category

/-!
# Texts in quotes

A text is shown in double quotes with a backslash in front of quotes and backslashes. Characters
that do not show are written by a letter or by their code point.
-/
namespace RowRecipe.Text

/-- Whether a character leaves no mark of its own. -/
def isHidden (c : Char) : Bool :=
  if c.toNat < 0x80 then c.toNat < 0x20 || c.toNat == 0x7F else !visibleCodes.holds c.toNat

/-- A character as it is shown between quotes of some kind. -/
def showChar (quote c : Char) : List Char :=
  if c = quote ∨ c = '\\' then ['\\', c]
  else if c = '\n' then ['\\', 'n']
  else if c = '\r' then ['\\', 'r']
  else if c = '\t' then ['\\', 't']
  else if c = '\x00' then ['\\', '0']
  else if isHidden c then '\\' :: 'u' :: '\x7b' :: (Nat.toDigits 16 c.toNat ++ ['\x7d'])
  else [c]

def showChars (quote : Char) (cs : List Char) : List Char :=
  quote :: (cs.flatMap (showChar quote) ++ [quote])

/-- A text in double quotes. -/
def shown (s : String) : String :=
  String.ofList (showChars '"' s.toList)

end RowRecipe.Text
