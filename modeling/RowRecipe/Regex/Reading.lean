import RowRecipe.Number.Reading
import RowRecipe.Regex.Brackets
import RowRecipe.Text.Category

/-!
# Reading regular expressions

The text of a regular expression is read from left to right into a draft. What is open, groups and
alternatives inside them, is kept on a stack.
-/
namespace RowRecipe.Regex

/-- Parts that are read one after another, the last one first, from a place on. -/
structure PartList where
  first : Nat
  parts : List Draft

namespace PartList

def push (list : PartList) (part : Draft) : PartList :=
  ⟨list.first, part :: list.parts⟩

/-- The draft of a list that ends in front of a place. -/
def finish (list : PartList) (beyond : Nat) : Draft :=
  match list.parts with
  | [] => .empty ⟨list.first, beyond⟩
  | [part] => part
  | parts => .concat ⟨list.first, beyond⟩ parts.reverse

end PartList

/-- The alternatives in front of a list of parts, the last one first, and where the first one
begins. -/
structure Branches where
  first : Nat
  earlier : List Draft

/-- The draft of the last alternative, which ends in front of a place, and those in front of it. -/
def Branches.finish (branches : Branches) (list : PartList) (beyond : Nat) : Draft :=
  let last := list.finish beyond
  if branches.earlier.isEmpty then last
  else .alternation ⟨branches.first, beyond⟩ (last :: branches.earlier).reverse

/-- A group around what is being read: the parts and alternatives in front of it, and whether the
text is loose there. -/
structure GroupFrame where
  list : PartList
  branches : Branches
  opening : Span
  number : Option Nat
  changes : List (Flag × Bool)
  loose : Bool

/-- What has been read. -/
structure Progress where
  list : PartList
  branches : Branches
  frames : List GroupFrame
  groupCount : Nat
  /-- The names of groups, with their numbers and where they stand. -/
  names : List (String × Nat × Span)

namespace Progress

def start : Progress :=
  ⟨⟨0, []⟩, ⟨0, []⟩, [], 0, []⟩

def push (progress : Progress) (part : Draft) : Progress :=
  { progress with list := progress.list.push part }

/-- Ends an alternative in front of the sign that the cursor stands at. -/
def split (progress : Progress) (cursor : Cursor) : Progress :=
  let last := progress.list.finish cursor.place
  let first :=
    if progress.branches.earlier.isEmpty then progress.list.first else progress.branches.first
  { progress with
    list := ⟨cursor.place + 1, []⟩
    branches := ⟨first, last :: progress.branches.earlier⟩ }

/-- Opens a group, inside which the cursor stands. -/
def openGroup (progress : Progress) (opening : Span) (number : Option Nat)
    (changes : List (Flag × Bool)) (cursor : Cursor) : Progress :=
  { progress with
    list := ⟨cursor.place, []⟩
    branches := ⟨cursor.place, []⟩
    frames := ⟨progress.list, progress.branches, opening, number, changes, cursor.loose⟩
      :: progress.frames
    groupCount := if number.isSome then progress.groupCount + 1 else progress.groupCount }

/-- Closes a group in front of the cursor. -/
def closeGroup (progress : Progress) (cursor : Cursor) : Except SourceError (Progress × Cursor) :=
  match progress.frames with
  | [] => failAt cursor.charSpan .groupUnopened
  | frame :: frames =>
    let inner := progress.branches.finish progress.list cursor.place
    let behind := { cursor.pass 1 with loose := frame.loose }
    let group := .group (behind.since frame.opening.first) frame.number frame.changes inner
    .ok ({ progress with
      list := frame.list.push group
      branches := frame.branches
      frames := frames }, behind)

/-- The part in front, which may be repeated unless it only sets flags, and the others. -/
def lastPart? (progress : Progress) : Option (Draft × PartList) :=
  match progress.list.parts with
  | [] | .empty _ :: _ | .flags _ _ :: _ => none
  | part :: parts => some (part, ⟨progress.list.first, parts⟩)

end Progress

def flagOf? (c : Char) : Option Flag :=
  match c with
  | 'i' => some .ignoreCase
  | 'm' => some .multiLine
  | 's' => some .dotAll
  | 'U' => some .swapGreed
  | 'u' => some .unicode
  | 'R' => some .carriageReturn
  | 'x' => some .ignoreSpace
  | _ => none

/-- Flags and signs of negation with their spans, the last one first. A flag of none is a sign. -/
abbrev FlagItems := List (Option Flag × Span)

/-- Reads flags up to a colon or a parenthesis; each one takes a character. -/
def readFlags : Nat → FlagItems → Cursor → Except SourceError (FlagItems × Cursor)
  | 0, _, cursor => failAt cursor.point .flagUnexpectedEnd
  | bound + 1, items, cursor =>
    match cursor.next? with
    | none => failAt cursor.point .flagUnexpectedEnd
    | some c =>
      if c = ':' ∨ c = ')' then
        match items with
        | (none, span) :: _ => failAt span .flagDanglingNegation
        | _ => .ok (items, cursor)
      else if c ≠ '-' ∧ flagOf? c = none then failAt cursor.charSpan .flagUnrecognized
      else
        match items.find? fun item => item.1 == flagOf? c with
        | some (_, span) =>
          .error ⟨if c = '-' then .flagRepeatedNegation else .flagDuplicate, cursor.charSpan,
            some span⟩
        | none => readFlags bound ((flagOf? c, cursor.charSpan) :: items) (cursor.pass 1)

/-- What flags change: those behind a sign of negation are cleared. -/
def flagChanges (value : Bool) : List (Option Flag) → List (Flag × Bool)
  | [] => []
  | none :: items => flagChanges false items
  | some flag :: items => (flag, value) :: flagChanges value items

/-- What changes make of a flag, the last one counting. -/
def changed (changes : List (Flag × Bool)) (flag : Flag) (value : Bool) : Bool :=
  changes.foldl (fun value change => if change.1 = flag then change.2 else value) value

/-- Whether a character may stand in the name of a group. -/
def isGroupNameChar (first : Bool) (c : Char) : Bool :=
  c == '_' || Text.alphabeticCodes.holds c.toNat
    || !first && (c == '.' || c == '[' || c == ']' || Text.numberCodes.holds c.toNat)

def readGroupName (names : List (String × Nat × Span)) (cursor : Cursor) :
    Except SourceError (String × Span × Cursor) :=
  let name := cursor.rest.takeWhile (· != '>')
  match name.zipIdx.find? fun (c, place) => !isGroupNameChar (place == 0) c with
  | some (_, place) => failAt (cursor.pass place).charSpan .groupNameInvalid
  | none =>
    let behind := cursor.pass name.length
    let span := behind.since cursor.place
    if behind.rest = [] then failAt behind.point .groupNameUnexpectedEnd
    else if name = [] then failAt cursor.point .groupNameEmpty
    else
      match names.find? fun entry => entry.1.toList == name with
      | some (_, _, taken) => .error ⟨.groupNameDuplicate, span, some taken⟩
      | none => .ok (String.ofList name, span, behind.pass 1)

/-- Reads the opening of a group, or flags that stand by themselves. -/
def readGroup (progress : Progress) (cursor : Cursor) : Except SourceError (Progress × Cursor) :=
  let opening := cursor.charSpan
  let inside := cursor.bump
  let looks := (["?=", "?!", "?<=", "?<!"].filterMap inside.passText?).head?
  let named := (["?P<", "?<"].filterMap inside.passText?).head?
  let number := progress.groupCount + 1
  match looks, named, inside.passText? "?" with
  | some behind, _, _ => failAt (behind.since opening.first) .lookAround
  | none, some start, _ =>
    match readGroupName progress.names start with
    | .error fault => .error fault
    | .ok (name, span, behind) =>
      let progress := progress.openGroup opening (some number) [] behind
      .ok ({ progress with names := (name, number, span) :: progress.names }, behind)
  | none, none, some start =>
    if start.rest = [] then failAt opening .groupUnclosed
    else
      match readFlags (start.rest.length + 1) [] start with
      | .error fault => .error fault
      | .ok (items, cursor) =>
        let changes := flagChanges true (items.reverse.map Prod.fst)
        let behind := cursor.pass 1
        let loose := changed changes .ignoreSpace cursor.loose
        if cursor.next? ≠ some ')' then
          .ok (progress.openGroup opening none changes behind, { behind with loose := loose })
        else if items = [] then failAt inside.point .repetitionMissing
        else
          .ok (progress.push (.flags (behind.since opening.first) changes),
            { behind with loose := loose })
  | none, none, none => .ok (progress.openGroup opening (some number) [] inside, inside)

/-- Reads the sign for few repetitions. -/
def readLazy (cursor : Cursor) : Bool × Cursor :=
  if cursor.next? = some '?' then (false, cursor.pass 1) else (true, cursor)

/-- Reads a repetition without counts. -/
def readRepetition (progress : Progress) (least : Nat) (most : Option Nat) (cursor : Cursor) :
    Except SourceError (Progress × Cursor) :=
  match progress.lastPart? with
  | none => failAt cursor.point .repetitionMissing
  | some (part, others) =>
    let (greedy, behind) := readLazy (cursor.pass 1)
    let repetition := .repetition (behind.since part.span.first) part least most greedy
    .ok ({ progress with list := others.push repetition }, behind)

/-- Reads a decimal number between blanks. A number that fails to be one is reported later. -/
def readCount (cursor : Cursor) : Except SourceError Nat × Cursor :=
  let cursor := cursor.passBlanks
  let (digits, behind) := cursor.take Char.isDigit
  let span := behind.since cursor.place
  let value := digitsValue 0 digits
  let result :=
    if digits = [] then failAt span .repetitionCountEmpty
    else if Nat.pow 2 32 ≤ value then failAt span .decimalInvalid
    else .ok value
  let (_, behind) := behind.take Text.isBlank
  (result, behind)

def readCounted (progress : Progress) (cursor : Cursor) :
    Except SourceError (Progress × Cursor) := do
  let first := cursor.place
  let fail := fun (cursor : Cursor) =>
    failAt (α := Unit) (cursor.since first) .repetitionCountUnclosed
  match progress.lastPart? with
  | none => failAt cursor.point .repetitionMissing
  | some (part, others) =>
    let cursor := cursor.bump
    if cursor.rest = [] then fail cursor
    let (least, cursor) := readCount cursor
    if cursor.rest = [] then fail cursor
    let (least, most, cursor) ←
      if cursor.next? = some ',' then
        let cursor := cursor.bump
        if cursor.rest = [] then fail cursor
        let least ← least
        if cursor.next? = some '\x7d' then pure (least, none, cursor)
        else
          let (most, cursor) := readCount cursor
          let most ← most
          pure (least, some most, cursor)
      else
        let least ← least
        pure (least, some least, cursor)
    if cursor.next? ≠ some '\x7d' then fail cursor
    let (greedy, behind) := readLazy cursor.bump
    if most.any (· < least) then failAt (behind.since first) .repetitionCountInvalid
    let repetition := .repetition (behind.since part.span.first) part least most greedy
    return ({ progress with list := others.push repetition }, behind)

def Primitive.toDraft : Primitive → Draft
  | .literal found => .literal found
  | .dot span => .dot span
  | .anchor span place => .anchor span place
  | .letter span letterClass negated => .letter span letterClass negated
  | .property span name negated => .property span name negated

def readPrimitive (c : Char) (cursor : Cursor) : Except SourceError (Primitive × Cursor) :=
  let behind := cursor.pass 1
  match c with
  | '\\' => readEscape cursor
  | '.' => .ok (.dot cursor.charSpan, behind)
  | '^' => .ok (.anchor cursor.charSpan .caret, behind)
  | '$' => .ok (.anchor cursor.charSpan .dollar, behind)
  | c => .ok (.literal (plainLiteral cursor c), behind)

def readPart (progress : Progress) (c : Char) (cursor : Cursor) :
    Except SourceError (Progress × Cursor) :=
  match c with
  | '(' => readGroup progress cursor
  | ')' => progress.closeGroup cursor
  | '|' => .ok (progress.split cursor, cursor.pass 1)
  | '[' =>
    (readClass cursor).map fun (span, inner, negated, behind) =>
      (progress.push (.brackets span inner negated), behind)
  | '?' => readRepetition progress 0 (some 1) cursor
  | '*' => readRepetition progress 0 none cursor
  | '+' => readRepetition progress 1 none cursor
  | '\x7b' => readCounted progress cursor
  | c =>
    (readPrimitive c cursor).map fun (primitive, behind) =>
      (progress.push primitive.toDraft, behind)

def readParts : Nat → Progress → Cursor → Except SourceError (Progress × Cursor)
  | 0, progress, cursor => .ok (progress, cursor)
  | bound + 1, progress, cursor =>
    let cursor := cursor.passSpace
    match cursor.next? with
    | none => .ok (progress, cursor)
    | some c =>
      match readPart progress c cursor with
      | .error fault => .error fault
      | .ok (progress, cursor) => readParts bound progress cursor

structure Source where
  draft : Draft
  groupCount : Nat
  names : List (String × Nat)

def Source.parse (text : String) : Except SourceError Source := do
  let cs := text.toList
  let (progress, cursor) ← readParts (cs.length + 1) .start ⟨cs, 0, false⟩
  match progress.frames with
  | frame :: _ => failAt frame.opening .groupUnclosed
  | [] =>
    let draft := progress.branches.finish progress.list cursor.place
    match draft.tooDeep? maxNesting with
    | some span => failAt span .nestingTooDeep
    | none =>
      return ⟨draft, progress.groupCount,
        progress.names.map fun (name, number, _) => (name, number)⟩

end RowRecipe.Regex
