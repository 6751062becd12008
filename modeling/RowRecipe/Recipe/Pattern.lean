import RowRecipe.Number.Layout
import RowRecipe.Text.Blank

/-!
# Patterns

A pattern says which token lists a directive takes: words that must stand as they are, arguments
that take any token, and groups that may be missing. Its text writes arguments in angle brackets
and groups in square brackets, and blanks only part words.
-/
namespace RowRecipe

inductive PatternToken where
  | argument (name : String)
  | literal (word : String)
  | optional (tokens : List PatternToken)
  deriving Repr, BEq

abbrev Pattern := List PatternToken

mutual

def PatternToken.chars : PatternToken → List Char
  | .argument name => '<' :: (name.toList ++ ['>'])
  | .literal word => word.toList
  | .optional tokens => '[' :: (patternChars tokens ++ [']'])

/-- The characters of a pattern, a blank between two tokens. -/
def patternChars : List PatternToken → List Char
  | [] => []
  | [token] => token.chars
  | token :: tokens => token.chars ++ ' ' :: patternChars tokens

end

namespace Pattern

def display (pattern : Pattern) : String :=
  String.ofList (patternChars pattern)

/-- What is wrong with the text of a pattern; offsets count bytes. -/
inductive Fault where
  | unclosedGroup
  | unexpectedClose (offset : Nat)
  | emptyGroup (offset : Nat)
  | unclosedName
  | badNameChar (c : Char)
  | emptyName (offset : Nat)
  deriving Repr, DecidableEq

namespace Fault

def reason : Fault → String
  | .unclosedGroup => "unclosed '['"
  | .unexpectedClose offset => "unexpected ']' at offset " ++ integerText offset
  | .emptyGroup offset => "empty optional group at offset " ++ integerText offset
  | .unclosedName => "unclosed '<'"
  | .badNameChar c => "invalid character '" ++ c.toString ++ "' in argument name"
  | .emptyName offset => "empty argument name at offset " ++ integerText offset

def message (fault : Fault) (text : String) : String :=
  "Malformed pattern '" ++ text ++ "': " ++ fault.reason

end Fault

/-- What is being read. -/
inductive Reading where
  | between
  | word (chars : List Char)
  /-- A name, and the offset of its bracket. -/
  | name (offset : Nat) (chars : List Char)

/-- A pattern read so far: the tokens of the innermost group, and for each group around it the
offset of its bracket and the tokens in front of that. -/
structure Draft where
  reading : Reading
  tokens : List PatternToken
  groups : List (Nat × List PatternToken)

namespace Draft

def push (draft : Draft) (token : PatternToken) : Draft :=
  ⟨.between, draft.tokens ++ [token], draft.groups⟩

/-- Reads a character between words and names. -/
def stepBetween (draft : Draft) (offset : Nat) (c : Char) : Except Fault Draft :=
  if Text.isBlank c then .ok draft
  else if c = '[' then .ok ⟨.between, [], (offset, draft.tokens) :: draft.groups⟩
  else if c = '<' then .ok ⟨.name offset [], draft.tokens, draft.groups⟩
  else if c = ']' then
    match draft.groups with
    | [] => .error (.unexpectedClose offset)
    | (start, outer) :: groups =>
      if draft.tokens = [] then .error (.emptyGroup start)
      else .ok ⟨.between, outer ++ [.optional draft.tokens], groups⟩
  else .ok ⟨.word [c], draft.tokens, draft.groups⟩

def endsWord (c : Char) : Bool :=
  Text.isBlank c || c == '[' || c == ']' || c == '<'

def step (draft : Draft) (offset : Nat) (c : Char) : Except Fault Draft :=
  match draft.reading with
  | .between => draft.stepBetween offset c
  | .word chars =>
    if endsWord c then (draft.push (.literal (String.ofList chars))).stepBetween offset c
    else .ok ⟨.word (chars ++ [c]), draft.tokens, draft.groups⟩
  | .name start chars =>
    if c = '>' then
      if chars = [] then .error (.emptyName start)
      else .ok (draft.push (.argument (String.ofList chars)))
    else if endsWord c then .error (.badNameChar c)
    else .ok ⟨.name start (chars ++ [c]), draft.tokens, draft.groups⟩

def finish (draft : Draft) : Except Fault Pattern :=
  match draft.reading, draft.groups with
  | .name _ _, _ => .error .unclosedName
  | _, _ :: _ => .error .unclosedGroup
  | .word chars, [] => .ok (draft.tokens ++ [.literal (String.ofList chars)])
  | .between, [] => .ok draft.tokens

def run (draft : Draft) (offset : Nat) : List Char → Except Fault Pattern
  | [] => draft.finish
  | c :: cs =>
    match draft.step offset c with
    | .error fault => .error fault
    | .ok next => next.run (offset + c.utf8Size) cs

end Draft

def parse (text : String) : Except Fault Pattern :=
  Draft.run ⟨.between, [], []⟩ 0 text.toList

/-- Why tokens do not match a pattern. -/
inductive Mismatch where
  | missingValue (name : String)
  | missingWord (word : String)
  | otherWord (word found : String)
  | unexpected (found : String)
  deriving Repr, DecidableEq

namespace Mismatch

def reason : Mismatch → String
  | .missingValue name => "missing value for <" ++ name ++ ">"
  | .missingWord word => "expected '" ++ word ++ "'"
  | .otherWord word found => "expected '" ++ word ++ "', found '" ++ found ++ "'"
  | .unexpected found => "unexpected '" ++ found ++ "'"

def message (mismatch : Mismatch) (pattern : Pattern) : String :=
  "Expected format: " ++ pattern.display ++ " (" ++ mismatch.reason ++ ")"

end Mismatch

end Pattern

end RowRecipe
