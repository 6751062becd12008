import RowRecipe.Regex.Cursor
import RowRecipe.Regex.Draft

/-!
# Reading escapes of regular expressions

A backslash gives a letter a meaning of its own, as a character, a class or a place, and takes the
meaning of a sign away.
-/
namespace RowRecipe.Regex

/-- What a character or an escape is. -/
inductive Primitive where
  | literal (literal : Literal)
  | dot (span : Span)
  | anchor (span : Span) (anchor : Anchor)
  | letter (span : Span) (letterClass : LetterClass) (negated : Bool)
  | property (span : Span) (name : PropertyName) (negated : Bool)

def Primitive.span : Primitive → Span
  | .literal found => found.span
  | .dot span | .anchor span _ | .letter span _ _ | .property span _ _ => span

def hexDigit? (c : Char) : Option Nat :=
  if c.isDigit then some (c.toNat - '0'.toNat)
  else if 'a' ≤ c ∧ c ≤ 'f' then some (c.toNat - 'a'.toNat + 10)
  else if 'A' ≤ c ∧ c ≤ 'F' then some (c.toNat - 'A'.toNat + 10)
  else none

def charOf? (code : Nat) : Option Char :=
  if code.isValidChar then some (Char.ofNat code) else none

def readHexDigits (first : Nat) : Nat → Nat → Cursor → Except SourceError (Char × Cursor)
  | 0, code, cursor =>
    match charOf? code with
    | some c => .ok (c, cursor)
    | none => failAt (cursor.since first) .escapeHexInvalid
  | count + 1, code, cursor =>
    match cursor.next? with
    | none => failAt cursor.point .escapeUnexpectedEnd
    | some c =>
      match hexDigit? c with
      | none => failAt cursor.charSpan .escapeHexInvalidDigit
      | some digit => readHexDigits first count (code * 16 + digit) cursor.bump

/-- Reads digits of base sixteen in braces; the cursor stands at the opening one. -/
def readHexBraced (cursor : Cursor) : Except SourceError (Char × Cursor) :=
  let first := (cursor.pass 1).place
  let (digits, behind) := cursor.bump.take fun c => (hexDigit? c).isSome
  match behind.next? with
  | none => failAt (behind.since cursor.place) .escapeUnexpectedEnd
  | some c =>
    if c ≠ '\x7d' then failAt behind.charSpan .escapeHexInvalidDigit
    else if digits = [] then failAt (behind.bump.since cursor.place) .escapeHexEmpty
    else
      match charOf? (digits.foldl (fun code c => code * 16 + (hexDigit? c).getD 0) 0) with
      | some c => .ok (c, behind.bump)
      | none => failAt (behind.since first) .escapeHexInvalid

def readHex (cursor : Cursor) : Except SourceError (Char × Bool × Cursor) :=
  let digits := if cursor.next? = some 'x' then 2 else if cursor.next? = some 'u' then 4 else 8
  let start := cursor.bump
  match start.next? with
  | none => failAt start.point .escapeUnexpectedEnd
  | some c =>
    if c = '\x7b' then (readHexBraced start).map fun (c, cursor) => (c, false, cursor)
    else (readHexDigits start.place digits 0 start).map fun (c, cursor) => (c, digits == 2, cursor)

/-- What stands in front of the first occurrence of a text, and what stands behind it. -/
def cutAt? (wanted name : List Char) : Option (String × String) :=
  (Text.find? wanted name).map fun place =>
    (String.ofList (name.take place), String.ofList (name.drop (place + wanted.length)))

/-- The name of a property, which may have a value behind a sign, and whether the sign takes all
but the characters with that value. -/
def PropertyName.ofChars (name : List Char) : PropertyName × Bool :=
  match cutAt? ['!', '='] name, (cutAt? [':'] name).or (cutAt? ['='] name) with
  | some (name, value), _ => (.withValue name value, true)
  | none, some (name, value) => (.withValue name value, false)
  | none, none => (.alone (String.ofList name), false)

/-- Reads a class by its name, behind the backslash. -/
def readProperty (cursor : Cursor) : Except SourceError ((PropertyName × Bool) × Cursor) :=
  let start := cursor.bump
  match start.next? with
  | none => failAt start.point .escapeUnexpectedEnd
  | some c =>
    if c = '\x7b' then
      let (name, behind) := start.bump.take (· != '\x7d')
      if behind.rest = [] then failAt behind.point .escapeUnexpectedEnd
      else .ok (PropertyName.ofChars name, behind.pass 1)
    else if c = '\\' then failAt start.charSpan .unicodeClassInvalid
    else .ok ((.alone (String.singleton c), false), start.bump)

/-- The class that a letter behind a backslash stands for, the small letters being affirmative. -/
def letterClass? (c : Char) : Option LetterClass :=
  match c.toLower with
  | 'd' => some .digit
  | 's' => some .space
  | 'w' => some .word
  | _ => none

/-- The character that a letter behind a backslash stands for. -/
def letterChar? (c : Char) : Option Char :=
  match c with
  | 'a' => some '\x07'
  | 'f' => some '\x0c'
  | 't' => some '\t'
  | 'n' => some '\n'
  | 'r' => some '\r'
  | 'v' => some '\x0b'
  | _ => none

/-- The place that a sign behind a backslash stands for. -/
def letterAnchor? (c : Char) : Option Anchor :=
  match c with
  | 'A' => some .textStart
  | 'z' => some .textEnd
  | 'b' => some .wordBoundary
  | 'B' => some .notWordBoundary
  | '<' => some .wordStart
  | '>' => some .wordEnd
  | _ => none

/-- Whether a backslash in front of a character only says that the character means itself. -/
def isEscapable (c : Char) : Bool :=
  c.toNat < 0x80 && !c.isAlphanum && c != '<' && c != '>'

/-- The word boundaries that are named in braces. -/
def boundaryNames : List (String × Anchor) :=
  [("start", .wordStart), ("end", .wordEnd), ("start-half", .wordStartHalf),
    ("end-half", .wordEndHalf)]

/-- Whether a character may stand in the name of a word boundary. -/
def isBoundaryChar (c : Char) : Bool :=
  c.isAlpha || c == '-'

/-- Reads the name of a word boundary in braces, the opening one of which comes next; braces with
something else are left alone. -/
def readBoundary (first : Nat) (cursor : Cursor) : Except SourceError (Anchor × Cursor) :=
  let inside := cursor.bump
  match inside.next? with
  | none => failAt (inside.since first) .boundaryUnexpectedEnd
  | some c =>
    if !isBoundaryChar c then .ok (.wordBoundary, cursor)
    else
      let (name, behind) := inside.take isBoundaryChar
      if behind.next? = some '\x7d' then
        match boundaryNames.find? fun entry => entry.1.toList == name with
        | some (_, anchor) => .ok (anchor, behind.pass 1)
        | none => failAt (behind.since inside.place) .boundaryUnrecognized
      else failAt (behind.since cursor.place) .boundaryUnclosed

/-- Reads an escape, which begins with a backslash. -/
def readEscape (cursor : Cursor) : Except SourceError (Primitive × Cursor) :=
  let first := cursor.place
  let cursor := cursor.pass 1
  match cursor.next? with
  | none => failAt (cursor.since first) .escapeUnexpectedEnd
  | some c =>
    let behind := cursor.pass 1
    let span := behind.since first
    if c.isDigit then failAt span .backreference
    else if c = 'x' ∨ c = 'u' ∨ c = 'U' then
      (readHex cursor).map fun (c, asByte, behind) =>
        (.literal ⟨behind.since first, c, asByte⟩, behind)
    else if c = 'p' ∨ c = 'P' then
      (readProperty cursor).map fun ((name, without), behind) =>
        (.property (behind.since first) name ((c == 'P') != without), behind)
    else
      match letterClass? c, letterChar? c, letterAnchor? c with
      | some found, _, _ => .ok (.letter span found c.isUpper, behind)
      | _, some c, _ => .ok (.literal ⟨span, c, false⟩, behind)
      | _, _, some anchor =>
        if c = 'b' ∧ behind.next? = some '\x7b' then
          (readBoundary first behind).map fun (anchor, behind) =>
            (.anchor (behind.since first) anchor, behind)
        else .ok (.anchor span anchor, behind)
      | _, _, _ =>
        if isEscapable c then .ok (.literal ⟨span, c, false⟩, behind)
        else failAt span .escapeUnrecognized

end RowRecipe.Regex
