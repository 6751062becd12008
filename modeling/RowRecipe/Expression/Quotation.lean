import RowRecipe.Expression.Numeral
import RowRecipe.Text.Blank

/-!
# Texts in quotes

A quote is read character by character. A quotation mark written twice stands for itself. In quotes
that are not verbatim a backslash begins an escape; verbatim quotes may hold expressions, in front
of which they stop, unless a backslash makes their opening a part of the text. Raw quotes have
neither, end at a mark with as many hashes as they begin with, and count as one line.
-/
namespace RowRecipe.Expression

/-- Whether a character only parts tokens. -/
def isGap (c : Char) : Bool :=
  c == ' ' || c == '\t' || c == '\n' || c == '\r' || c == '\x0c'

/-- What is written between two marks. -/
structure QuoteStyle where
  mark : Char
  /-- Whether a backslash stands for itself, lines may end, and expressions may be held. -/
  verbatim : Bool
  /-- Whether a backslash at the end of a line joins it to the next one. -/
  joinsLines : Bool

namespace QuoteStyle

def single : QuoteStyle := ⟨'\'', false, false⟩

def double : QuoteStyle := ⟨'"', false, true⟩

def back : QuoteStyle := ⟨'\x60', true, false⟩

end QuoteStyle

/-- How far an escape has been read. -/
inductive Escape where
  | none
  | begun
  /-- Digits of base sixteen are read: the escape so far, how many are missing, and their value. -/
  | code (seen : List Char) (missing value : Nat)
  deriving DecidableEq

/-- How a quote ends. -/
inductive QuoteEnd where
  | closed
  /-- An expression in braces follows. -/
  | held
  | unfinished
  deriving DecidableEq

/-- What has been read of a quote. -/
structure QuoteState where
  escape : Escape
  /-- Blanks in columns in front of this one are dropped. -/
  margin : Nat
  /-- Whether the next character is the second of two marks. -/
  doubled : Bool
  /-- The characters so far, the last one first. -/
  inside : List Char
  /-- The place of the first character. -/
  first : Position
  /-- The place of the next character. -/
  place : Position

/-- A quote that has been read, and what follows it. -/
structure Quote where
  inside : List Char
  ending : QuoteEnd
  first : Position
  place : Position
  rest : List Char

/-- The length of the code of an escape. -/
def codeLength? (c : Char) : Option Nat :=
  if c = 'x' then some 2 else if c = 'u' then some 4 else if c = 'U' then some 8 else none

def escaped? (style : QuoteStyle) (c : Char) : Option Char :=
  if c = '\\' ∨ c = style.mark then some c
  else if c = 't' then some '\t'
  else if c = 'n' then some '\n'
  else if c = 'r' then some '\r'
  else none

namespace QuoteState

/-- The state in front of the first character. -/
def begin (place : Position) : QuoteState :=
  ⟨.none, 0, false, [], .nowhere, place⟩

def push (state : QuoteState) (c : Char) : QuoteState :=
  { state with escape := .none, margin := 0, inside := c :: state.inside }

def pass (state : QuoteState) (c : Char) : QuoteState :=
  { state with
    place := state.place.after c
    first := if state.first = .nowhere then state.place else state.first }

/-- Reads a digit of an escape. -/
def readDigit (state : QuoteState) (seen : List Char) (missing value : Nat) (c : Char) :
    Except (LexicalFault × Position) QuoteState :=
  let seen := seen ++ [c]
  match digitValue? 16 c with
  | none => .error (.badEscape (String.ofList seen), state.place)
  | some digit =>
    let value := value * 16 + digit
    if 1 < missing then .ok { state with escape := .code seen (missing - 1) value }
    else if value.isValidChar then .ok (state.push (Char.ofNat value))
    else .error (.badEscape (String.ofList seen), state.place)

def read (style : QuoteStyle) (start : Position) (state : QuoteState) (c : Char)
    (next : Option Char) : Except (LexicalFault × Position) QuoteState :=
  match state.escape with
  | .code seen missing value => state.readDigit seen missing value c
  | .begun =>
    if c = '\r' ∧ next = some '\n' then .ok state
    else if c = '\n' then
      if style.joinsLines then .ok { state with escape := .none, margin := start.column + 1 }
      else .error (.openText, start)
    else
      match escaped? style c, codeLength? c with
      | some escaped, _ => .ok (state.push escaped)
      | none, some length => .ok { state with escape := .code ['\\', c] length 0 }
      | none, none => .error (.badEscape (String.ofList ['\\', c]), state.place)
  | .none =>
    if c = '\r' ∧ next = some '\n' then .ok state
    else if c = '\\' ∧ !style.verbatim then .ok { state with escape := .begun }
    else if c = '\n' ∧ !style.verbatim then .error (.openText, start)
    else if Text.isBlank c ∧ state.place.column < state.margin then .ok state
    else .ok (state.push c)

/-- What a quote is whose characters end. -/
def finish (style : QuoteStyle) (start : Position) (state : QuoteState) :
    Except (LexicalFault × Position) Quote :=
  match state.escape with
  | .code seen _ _ => .error (.badEscape (String.ofList seen), state.place.back)
  | _ =>
    if style.verbatim then .ok ⟨state.inside.reverse, .unfinished, state.first, state.place, []⟩
    else .error (.openText, start)

end QuoteState

/-- Reads a quote behind its opening mark, which stands at the start. -/
def readQuote (style : QuoteStyle) (start : Position) :
    QuoteState → List Char → Except (LexicalFault × Position) Quote
  | state, [] => state.finish style start
  | state, c :: cs =>
    let ended := fun ending =>
      .ok ⟨state.inside.reverse, ending, state.first, state.place.after c, cs⟩
    if state.doubled then
      readQuote style start (({ state with doubled := false }.push c).pass c) cs
    else if style.verbatim ∧ c = '$' ∧ cs.head? = some '\x7b' then
      match state.inside with
      | '\\' :: inside => readQuote style start (({ state with inside := inside }.push c).pass c) cs
      | _ => ended .held
    else if c = style.mark ∧ state.escape = .none then
      if cs.head? = some style.mark then
        readQuote style start { state with doubled := true, place := state.place.after c } cs
      else ended .closed
    else
      match state.read style start c cs.head? with
      | .error fault => .error fault
      | .ok read => readQuote style start (read.pass c) cs

/-- Reads a raw quote behind its opening mark: the hashes seen behind a mark that may close it, the
characters so far, the last one first, and the place of the next one. -/
def readRaw (hashes : Nat) :
    Option Nat → List Char → Position → List Char → Option (List Char × Position × List Char)
  | _, _, _, [] => none
  | closing, inside, place, c :: cs =>
    let place := place.along 1
    match closing with
    | none =>
      if c = '"' then readRaw hashes (some 0) inside place cs
      else readRaw hashes none (c :: inside) place cs
    | some seen =>
      let kept := List.replicate seen '#' ++ '"' :: inside
      if c = '#' then
        if seen + 1 = hashes then some (inside.reverse, place, cs)
        else readRaw hashes (some (seen + 1)) inside place cs
      else if c = '"' then readRaw hashes (some 0) kept place cs
      else readRaw hashes none (c :: kept) place cs

end RowRecipe.Expression
