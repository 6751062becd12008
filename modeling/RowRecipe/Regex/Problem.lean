import RowRecipe.Text.Pieces

/-!
# What is wrong with a regular expression

A text that is no regular expression is reported with the characters that are to blame. Each line of
the text is shown with marks under those of its characters; characters that go over several lines
are named by lines and columns instead.
-/
namespace RowRecipe.Regex

/-- Why a text is no regular expression. -/
inductive Problem where
  | classEscapeInvalid | classRangeInvalid | classRangeLiteral | classUnclosed
  | decimalInvalid
  | escapeHexEmpty | escapeHexInvalid | escapeHexInvalidDigit | escapeUnexpectedEnd
  | escapeUnrecognized
  | flagDanglingNegation | flagDuplicate | flagRepeatedNegation | flagUnexpectedEnd
  | flagUnrecognized
  | groupNameDuplicate | groupNameEmpty | groupNameInvalid | groupNameUnexpectedEnd
  | groupUnclosed | groupUnopened
  | repetitionCountInvalid | repetitionCountEmpty | repetitionCountUnclosed | repetitionMissing
  | boundaryUnclosed | boundaryUnrecognized | boundaryUnexpectedEnd
  | unicodeClassInvalid | backreference | lookAround
  | nestingTooDeep
  | unicodeNotAllowed | invalidUtf8 | propertyNotFound | propertyValueNotFound
  deriving Repr, DecidableEq

/-- The number of parts that may lie inside each other. -/
def maxNesting : Nat := 250

def Problem.message : Problem → String
  | .classEscapeInvalid => "invalid escape sequence found in character class"
  | .classRangeInvalid => "invalid character class range, the start must be <= the end"
  | .classRangeLiteral => "invalid range boundary, must be a literal"
  | .classUnclosed => "unclosed character class"
  | .decimalInvalid => "decimal literal invalid"
  | .escapeHexEmpty => "hexadecimal literal empty"
  | .escapeHexInvalid => "hexadecimal literal is not a Unicode scalar value"
  | .escapeHexInvalidDigit => "invalid hexadecimal digit"
  | .escapeUnexpectedEnd => "incomplete escape sequence, reached end of pattern prematurely"
  | .escapeUnrecognized => "unrecognized escape sequence"
  | .flagDanglingNegation => "dangling flag negation operator"
  | .flagDuplicate => "duplicate flag"
  | .flagRepeatedNegation => "flag negation operator repeated"
  | .flagUnexpectedEnd => "expected flag but got end of regex"
  | .flagUnrecognized => "unrecognized flag"
  | .groupNameDuplicate => "duplicate capture group name"
  | .groupNameEmpty => "empty capture group name"
  | .groupNameInvalid => "invalid capture group character"
  | .groupNameUnexpectedEnd => "unclosed capture group name"
  | .groupUnclosed => "unclosed group"
  | .groupUnopened => "unopened group"
  | .repetitionCountInvalid => "invalid repetition count range, the start must be <= the end"
  | .repetitionCountEmpty => "repetition quantifier expects a valid decimal"
  | .repetitionCountUnclosed => "unclosed counted repetition"
  | .repetitionMissing => "repetition operator missing expression"
  | .boundaryUnclosed =>
    "special word boundary assertion is either unclosed or contains an invalid character"
  | .boundaryUnrecognized =>
    "unrecognized special word boundary assertion, valid choices are: start, end, start-half or "
      ++ "end-half"
  | .boundaryUnexpectedEnd =>
    "found either the beginning of a special word boundary or a bounded repetition on a \\b with "
      ++ "an opening brace, but no closing brace"
  | .unicodeClassInvalid => "invalid Unicode character class"
  | .backreference => "backreferences are not supported"
  | .lookAround => "look-around, including look-ahead and look-behind, is not supported"
  | .nestingTooDeep =>
    "exceed the maximum number of nested parentheses/brackets (" ++ toString maxNesting ++ ")"
  | .unicodeNotAllowed => "Unicode not allowed here"
  | .invalidUtf8 => "pattern can match invalid UTF-8"
  | .propertyNotFound => "Unicode property not found"
  | .propertyValueNotFound => "Unicode property value not found"

structure Span where
  first : Nat
  beyond : Nat
  deriving Repr, DecidableEq

/-- What is wrong with a text, where, and where else to look. -/
structure SourceError where
  problem : Problem
  span : Span
  other : Option Span
  deriving Repr, DecidableEq

def failAt {α : Type} (span : Span) (problem : Problem) : Except SourceError α :=
  .error ⟨problem, span, none⟩

/-- The spans of an error in order. -/
def SourceError.spans (fault : SourceError) : List Span :=
  match fault.other with
  | none => [fault.span]
  | some other =>
    if other.first < fault.span.first
        ∨ other.first = fault.span.first ∧ other.beyond ≤ fault.span.beyond then
      [other, fault.span]
    else [fault.span, other]

/-- A line and a column of it, both counted from 1 on. -/
structure Spot where
  line : Nat
  column : Nat
  deriving Repr, DecidableEq

def Spot.ofPlace (cs : List Char) (place : Nat) : Spot :=
  (cs.take place).foldl
    (fun spot c => if c = '\n' then ⟨spot.line + 1, 1⟩ else ⟨spot.line, spot.column + 1⟩) ⟨1, 1⟩

/-- Marks under the columns between spots of one line, behind so many columns. -/
def marks (passed : Nat) : List (Spot × Spot) → List Char
  | [] => []
  | (first, beyond) :: extents =>
    let length := max 1 (beyond.column - first.column)
    List.replicate (first.column - 1 - passed) ' ' ++ List.replicate length '^'
      ++ marks (max passed (first.column - 1) + length) extents

/-- Lines from a number on, each with the marks below it. A line has its number in front, which
takes so many columns, unless it is the only one. -/
def notedLines (width : Nat) (extents : List (Spot × Spot)) : Nat → List String → List String
  | _, [] => []
  | number, line :: lines =>
    let digits := toString number
    let lead := if width = 0 then "    "
      else String.ofList (List.replicate (width - digits.length) ' ') ++ digits ++ ": "
    let here := extents.filter fun extent => extent.1.line == number
    let noted := List.replicate lead.length ' ' ++ marks 0 here
    (lead ++ line) :: (if here.isEmpty then [] else [String.ofList noted])
      ++ notedLines width extents (number + 1) lines

/-- What is said of characters that go over several lines. -/
def farNote (extent : Spot × Spot) : String :=
  "on line " ++ toString extent.1.line ++ " (column " ++ toString extent.1.column
    ++ ") through line " ++ toString extent.2.line ++ " (column "
    ++ toString (extent.2.column - 1) ++ ")"

/-- What is said of a text with something wrong in it. -/
def SourceError.message (fault : SourceError) (source : String) : String :=
  let cs := source.toList
  let extents := fault.spans.map fun span =>
    (Spot.ofPlace cs span.first, Spot.ofPlace cs span.beyond)
  let (near, far) := extents.partition fun extent => extent.1.line == extent.2.line
  let lines := Text.lines source
  let several := cs.contains '\n'
  let lineCount := lines.length + if cs.getLast? = some '\n' then 1 else 0
  let width := if several then (toString lineCount).length else 0
  let divider := if several then [String.ofList (List.replicate 79 '~')] else []
  Text.join "\n" ("regex parse error:" :: divider ++ notedLines width near 1 lines ++ divider
    ++ far.map farNote ++ ["error: " ++ fault.problem.message])

inductive Refusal where
  | unreadable (fault : SourceError)
  | tooLarge
  deriving Repr, DecidableEq

/-- The number of bytes that a program may take. -/
def maxSize : Nat := 10 * Nat.pow 2 20

def Refusal.message (refusal : Refusal) (source : String) : String :=
  match refusal with
  | .unreadable fault => fault.message source
  | .tooLarge => "Compiled regex exceeds size limit of " ++ toString maxSize ++ " bytes."

end RowRecipe.Regex
