import RowRecipe.Number.Reading

/-!
# Replacement templates

A template puts the texts of groups between texts of its own. A group is named behind a dollar sign,
by the longest run of letters, digits and underscores or by anything in braces; two dollar signs are
one, and a dollar sign that names nothing stands for itself.
-/
namespace RowRecipe.Regex

inductive TemplatePart where
  | char (c : Char)
  | number (group : Nat)
  | name (group : String)
  deriving Repr, DecidableEq

/-- Whether a character goes on in the name of a group without braces. -/
def isReferenceChar (c : Char) : Bool :=
  c.isAlphanum || c == '_'

/-- The reference to a group by what stands behind the dollar sign; digits may have a plus sign in
front. -/
def reference (name : List Char) : TemplatePart :=
  let digits := match name with
    | '+' :: digits => digits
    | digits => digits
  if digits ≠ [] ∧ digits.all Char.isDigit ∧ digitsValue 0 digits < Nat.pow 2 64 then
    .number (digitsValue 0 digits)
  else .name (String.ofList name)

/-- What a dollar sign begins, and how many characters behind it belong to it. -/
def readReference (cs : List Char) : TemplatePart × Nat :=
  match cs with
  | '$' :: _ => (.char '$', 1)
  | '\x7b' :: rest =>
    let name := rest.takeWhile (· != '\x7d')
    if name.length < rest.length then (reference name, name.length + 2) else (.char '$', 0)
  | cs =>
    let name := cs.takeWhile isReferenceChar
    if name = [] then (.char '$', 0) else (reference name, name.length)

/-- The parts of a template; `skip` characters belong to what was read before. -/
def readTemplate : Nat → List Char → List TemplatePart
  | _, [] => []
  | skip + 1, _ :: cs => readTemplate skip cs
  | 0, c :: cs =>
    if c = '$' then
      let (part, length) := readReference cs
      part :: readTemplate length cs
    else .char c :: readTemplate 0 cs

end RowRecipe.Regex
