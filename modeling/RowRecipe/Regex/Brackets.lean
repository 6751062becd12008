import RowRecipe.Regex.Escape

/-!
# Reading classes in brackets

A class in brackets lists characters, ranges and other classes, and may combine lists by operators.
What is open is kept on a stack: brackets with the list around them, and operators with what stands
in front of them.
-/
namespace RowRecipe.Regex

/-- The ranges of a class of a name between colons. -/
def asciiClasses : List (String × List (Char × Char)) := [
  ("alnum", [('0', '9'), ('A', 'Z'), ('a', 'z')]), ("alpha", [('A', 'Z'), ('a', 'z')]),
  ("ascii", [('\x00', '\x7f')]), ("blank", [('\t', '\t'), (' ', ' ')]),
  ("cntrl", [('\x00', '\x1f'), ('\x7f', '\x7f')]), ("digit", [('0', '9')]),
  ("graph", [('!', '~')]), ("lower", [('a', 'z')]), ("print", [(' ', '~')]),
  ("punct", [('!', '/'), (':', '@'), ('[', '\x60'), ('\x7b', '~')]),
  ("space", [('\t', '\r'), (' ', ' ')]), ("upper", [('A', 'Z')]),
  ("word", [('0', '9'), ('A', 'Z'), ('_', '_'), ('a', 'z')]),
  ("xdigit", [('0', '9'), ('A', 'F'), ('a', 'f')])]

/-- The code points between the characters of some ranges. -/
def codesBetween (ranges : List (Char × Char)) : Text.CodeSet :=
  .ofRanges (ranges.map fun (first, last) => (first.toNat, last.toNat))

/-- Reads a class of a name between colons in brackets, if there is one. -/
def readAsciiClass? (cursor : Cursor) : Option (ClassDraft × Cursor) :=
  match cursor.rest with
  | '[' :: ':' :: rest =>
    let (negated, rest) := match rest with
      | '^' :: rest => (true, rest)
      | rest => (false, rest)
    let (name, rest) := rest.span (· != ':')
    match rest with
    | ':' :: ']' :: rest =>
      let behind := cursor.pass (cursor.rest.length - rest.length)
      (asciiClasses.find? fun entry => entry.1.toList == name).map fun entry =>
        (.ascii (behind.since cursor.place) (codesBetween entry.2) negated, behind)
    | _ => none
  | _ => none

/-- A list of items under way, the last one first. -/
structure ItemList where
  span : Span
  items : List ClassDraft

namespace ItemList

def start (cursor : Cursor) : ItemList :=
  ⟨cursor.point, []⟩

def push (list : ItemList) (item : ClassDraft) : ItemList :=
  ⟨⟨if list.items.isEmpty then item.span.first else list.span.first, item.span.beyond⟩,
    item :: list.items⟩

/-- The class of a list. -/
def finish (list : ItemList) : ClassDraft :=
  match list.items with
  | [] => .empty list.span
  | [item] => item
  | items => .union list.span items.reverse

end ItemList

/-- What is open inside brackets. -/
inductive ClassFrame where
  | brackets (outer : ItemList) (opening : Span) (negated : Bool)
  | operator (operator : SetOperator) (left : ClassDraft)

/-- The opening of the innermost brackets, which are not closed. -/
def unclosed {α : Type} (point : Span) : List ClassFrame → Except SourceError α
  | [] => failAt point .classUnclosed
  | .brackets _ opening _ :: _ => failAt opening .classUnclosed
  | .operator _ _ :: frames => unclosed point frames

/-- Combines a class with what stands in front of the operator before it, if there is one. -/
def closeOperator (right : ClassDraft) : List ClassFrame → ClassDraft × List ClassFrame
  | .operator operator left :: frames =>
    (.operation ⟨left.span.first, right.span.beyond⟩ operator left right, frames)
  | frames => (right, frames)

/-- The operator that comes next. -/
def setOperator? (cursor : Cursor) : Option SetOperator :=
  match cursor.rest with
  | '&' :: '&' :: _ => some .intersection
  | '-' :: '-' :: _ => some .difference
  | '~' :: '~' :: _ => some .symmetricDifference
  | _ => none

/-- The next character as it stands. -/
def plainLiteral (cursor : Cursor) (c : Char) : Literal :=
  ⟨cursor.charSpan, c, false⟩

/-- Reads the hyphens in front of a class, which mean themselves. -/
def readHyphens (opening : Span) : Nat → ItemList → Cursor → Except SourceError (ItemList × Cursor)
  | 0, list, cursor => .ok (list, cursor)
  | tries + 1, list, cursor =>
    if cursor.next? = some '-' then
      if cursor.bump.rest = [] then failAt opening .classUnclosed
      else
        readHyphens opening tries (list.push (.literal (plainLiteral cursor '-'))) cursor.bump
    else .ok (list, cursor)

/-- Reads an opening bracket, the sign of negation, and hyphens or a closing bracket behind them,
which mean themselves. -/
def openBrackets (cursor : Cursor) : Except SourceError (Span × Bool × ItemList × Cursor) := do
  let first := cursor.place
  let fail := fun (cursor : Cursor) => failAt (α := Unit) (cursor.since first) .classUnclosed
  let cursor := cursor.bump
  if cursor.rest = [] then fail cursor
  let negated := cursor.next? == some '^'
  let cursor := if negated then cursor.bump else cursor
  if cursor.rest = [] then fail cursor
  let (list, cursor) ← readHyphens ⟨first, first⟩ cursor.rest.length (.start cursor) cursor
  if list.items.isEmpty ∧ cursor.next? = some ']' then
    let list := list.push (.literal (plainLiteral cursor ']'))
    let cursor := cursor.bump
    if cursor.rest = [] then fail cursor
    return (cursor.since first, negated, list, cursor)
  else return (cursor.since first, negated, list, cursor)

/-- Reads a character or an escape in a class. -/
def readClassItem (c : Char) (cursor : Cursor) : Except SourceError (Primitive × Cursor) :=
  if c = '\\' then readEscape cursor
  else .ok (.literal (plainLiteral cursor c), cursor.pass 1)

/-- The class of a character or an escape. -/
def Primitive.toClass : Primitive → Except SourceError ClassDraft
  | .literal found => .ok (.literal found)
  | .letter span letterClass negated => .ok (.letter span letterClass negated)
  | .property span name negated => .ok (.property span name negated)
  | .dot span | .anchor span _ => failAt span .classEscapeInvalid

/-- The character at one end of a range. -/
def Primitive.toLiteral : Primitive → Except SourceError Literal
  | .literal found => .ok found
  | primitive => failAt primitive.span .classRangeLiteral

/-- Reads a character, a range or an escape in a class. -/
def readClassRange (frames : List ClassFrame) (c : Char) (cursor : Cursor) :
    Except SourceError (ClassDraft × Cursor) := do
  let (first, cursor) ← readClassItem c cursor
  let cursor := cursor.passSpace
  match cursor.next? with
  | none => unclosed cursor.point frames
  | some sign =>
    let ahead := cursor.ahead?
    if sign ≠ '-' ∨ ahead = some ']' ∨ ahead = some '-' then
      return (← first.toClass, cursor)
    else
      let cursor := cursor.bump
      match cursor.next? with
      | none => unclosed cursor.point frames
      | some c =>
        let (second, cursor) ← readClassItem c cursor
        let span : Span := ⟨first.span.first, second.span.beyond⟩
        let first ← first.toLiteral
        let second ← second.toLiteral
        if second.c < first.c then failAt span .classRangeInvalid
        else return (.range span first second, cursor)

/-- Reads a class behind its opening: what is open, the list under way, and what is left. Each step
takes a character at least. -/
def readClassParts : Nat → List ClassFrame → ItemList → Cursor →
    Except SourceError (Span × ClassDraft × Bool × Cursor)
  | 0, frames, _, cursor => unclosed cursor.point frames
  | bound + 1, frames, list, cursor =>
    let cursor := cursor.passSpace
    match cursor.next? with
    | none => unclosed cursor.point frames
    | some c =>
      if c = ']' then
        match closeOperator list.finish frames with
        | (inner, .brackets outer opening negated :: frames) =>
          let cursor := cursor.pass 1
          let span := cursor.since opening.first
          if frames.isEmpty then .ok (span, inner, negated, cursor)
          else readClassParts bound frames (outer.push (.brackets span inner negated)) cursor
        | (_, frames) => unclosed cursor.point frames
      else if c = '[' then
        match readAsciiClass? cursor with
        | some (found, cursor) => readClassParts bound frames (list.push found) cursor
        | none =>
          match openBrackets cursor with
          | .error fault => .error fault
          | .ok (opening, negated, inner, cursor) =>
            readClassParts bound (.brackets list opening negated :: frames) inner cursor
      else
        match setOperator? cursor with
        | some operator =>
          let (left, frames) := closeOperator list.finish frames
          let cursor := cursor.pass 2
          readClassParts bound (.operator operator left :: frames) (.start cursor) cursor
        | none =>
          match readClassRange frames c cursor with
          | .error fault => .error fault
          | .ok (found, cursor) => readClassParts bound frames (list.push found) cursor

/-- Reads a class, which begins with a bracket: its span, what stands inside, and whether that is
negated. -/
def readClass (cursor : Cursor) : Except SourceError (Span × ClassDraft × Bool × Cursor) :=
  match openBrackets cursor with
  | .error fault => .error fault
  | .ok (opening, negated, list, behind) =>
    readClassParts (behind.rest.length + 1) [.brackets (.start cursor) opening negated] list behind

end RowRecipe.Regex
