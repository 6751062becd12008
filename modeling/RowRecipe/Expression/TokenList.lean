import RowRecipe.Expression.Quotation

/-!
# Cutting the text of an expression into tokens

Blanks and comments part tokens. A minus sign in front of a digit belongs to the number where an
operand is expected. Where the text cannot be cut, the last token says what is wrong. A text that
holds expressions goes on behind the brace that closes each of them.
-/
namespace RowRecipe.Expression

/-- The tokens of a text, each with its place. -/
abbrev Tokens := List (Token × Position)

/-- The place behind some characters. -/
def placeBehind (place : Position) (cs : List Char) : Position :=
  cs.foldl Position.after place

/-- Drops a block comment behind its opening; comments nest. -/
def dropComment : Nat → Position → List Char → Position × List Char
  | _, place, [] => (place, [])
  | 0, place, cs => (place, cs)
  | depth + 1, place, '*' :: '/' :: cs => dropComment depth (place.along 2) cs
  | depth + 1, place, '/' :: '*' :: cs => dropComment (depth + 2) (place.along 2) cs
  | depth + 1, place, c :: cs => dropComment (depth + 1) (place.after c) cs

/-- Drops a comment that ends with its line. -/
def dropLine (place : Position) : List Char → Position × List Char
  | [] => (place, [])
  | '\r' :: '\n' :: cs => (place.nextLine, cs)
  | c :: cs => if c = '\n' ∨ c = '\r' then (place.nextLine, cs) else dropLine (place.along 1) cs

/-- What the next characters are: nothing of account, or a token at a place. -/
inductive Piece where
  | gap (place : Position) (rest : List Char)
  | token (value : Token) (token place : Position) (rest : List Char)

/-- The piece of a token whose characters are those in front of the rest. -/
def pieceOf (token : Token) (place : Position) (cs rest : List Char) : Piece :=
  .token token place (placeBehind place (cs.take (cs.length - rest.length))) rest

/-- The piece of a fault. -/
def faultAt (fault : LexicalFault) (place : Position) : Piece :=
  .token (.bad fault) place place []

def charToken : List Char → Token
  | [c] => .char c
  | text => .bad (.badChar (String.ofList text))

/-- The piece of a verbatim quote, at a place of its own or at that of its first character. -/
def backPiece (place : Position) (quote : Quote) : Piece :=
  match quote.ending with
  | .closed => .token (.text (String.ofList quote.inside)) place quote.place quote.rest
  | .held => .token (.piece (String.ofList quote.inside)) place quote.place quote.rest
  | .unfinished => faultAt .openText place

/-- Reads a quote of some style behind its opening mark. -/
def quotePiece (style : QuoteStyle) (place : Position) (cs : List Char) (make : List Char → Token) :
    Piece :=
  match readQuote style place (.begin (place.along 1)) cs with
  | .error (fault, at') => faultAt fault at'
  | .ok quote => .token (make quote.inside) place quote.place quote.rest

/-- Reads a verbatim quote behind its opening mark; a line that ends at once does not count. -/
def readBack (place : Position) (cs : List Char) : Piece :=
  let (inner, cs) := match cs with
    | '\r' :: '\n' :: rest | '\r' :: rest | '\n' :: rest => (place.nextLine, rest)
    | cs => (place.along 1, cs)
  match readQuote .back place (.begin inner) cs with
  | .error (fault, at') => faultAt fault at'
  | .ok quote => backPiece place quote

/-- Reads on in a verbatim quote behind an expression. -/
def continueBack (place : Position) (cs : List Char) : Piece :=
  match readQuote .back place (.begin place) cs with
  | .error (fault, at') => faultAt fault at'
  | .ok quote => backPiece quote.first quote

/-- Reads a raw quote from its first hash on. -/
def rawPiece (place : Position) (cs : List Char) : Piece :=
  let (hashes, rest) := cs.span (· == '#')
  match rest with
  | [] => faultAt .openText place
  | c :: rest =>
    if c ≠ '"' then faultAt (.stray c.toString) place
    else
      match readRaw hashes.length none [] (place.along (hashes.length + 1)) rest with
      | none => faultAt .openText place
      | some (inside, behind, rest) => .token (.text (String.ofList inside)) place behind rest

/-- The first of the symbols that a text begins with. -/
def symbolPiece (place : Position) (c : Char) (rest : List Char) :
    List (String × Token) → Piece
  | [] => faultAt (.stray c.toString) place
  | (text, token) :: others =>
    if text.toList.isPrefixOf (c :: rest) then
      pieceOf token place (c :: rest) ((c :: rest).drop text.length)
    else symbolPiece place c rest others

/-- Whether the word for membership follows, and no longer word. -/
def followsIn : List Char → Bool
  | 'i' :: 'n' :: rest => !(rest.head?.any isNameChar)
  | _ => false

/-- Reads what a text begins with, behind an operand or not. -/
def readPiece (behindOperand : Bool) (place : Position) (c : Char) (rest : List Char) : Piece :=
  let whole := c :: rest
  let next := rest.head?
  if isGap c then .gap (place.after c) rest
  else if c = '/' ∧ next = some '/' then
    let (place, rest) := dropLine (place.along 2) rest.tail
    .gap place rest
  else if c = '/' ∧ next = some '*' then
    let (place, rest) := dropComment 1 (place.along 2) rest.tail
    .gap place rest
  else if c.isDigit then
    let (token, rest) := readNumber false whole
    pieceOf token place whole rest
  else if c = '-' ∧ !behindOperand ∧ next.any Char.isDigit then
    let (token, rest) := readNumber true rest
    pieceOf token place whole rest
  else if c = '"' then quotePiece .double place rest fun inside => .text (String.ofList inside)
  else if c = '\x60' then readBack place rest
  else if c = '\'' then
    if next = some '\'' then faultAt (.badChar "") place
    else quotePiece .single place rest charToken
  else if c = '#' ∧ (next = some '"' ∨ next = some '#') then rawPiece place whole
  else if c = '!' ∧ followsIn rest then pieceOf (.symbol "!in") place whole (rest.drop 2)
  else if beginsName c then
    let (word, rest) := whole.span isNameChar
    pieceOf (wordToken word) place whole rest
  else symbolPiece place c rest symbols

/-- What a token does to the numbers of braces open inside the texts that hold the place. -/
def braces (token : Token) (depths : List Nat) : List Nat :=
  match token, depths with
  | .symbol "\x7b", depth :: depths | .symbol "#\x7b", depth :: depths => (depth + 1) :: depths
  | .symbol "\x7d", depth :: depths => (depth - 1) :: depths
  | _, depths => depths

/-- Cuts a text into tokens, of which there are at most so many. Nothing follows a fault. With no
brace open in the innermost text that holds the place, that text goes on. -/
def tokensFrom : Nat → Bool → List Nat → Position → List Char → Tokens
  | 0, _, _, place, _ => [(.finish, place)]
  | count + 1, behindOperand, depths, place, cs =>
    let go := fun (depths : List Nat) (piece : Piece) =>
      match piece with
      | .gap place rest => tokensFrom count behindOperand depths place rest
      | .token token at' place rest =>
        match token with
        | .bad _ => [(token, at')]
        | .piece _ =>
          (token, at') :: (.symbol "\x7b", place)
            :: tokensFrom count false (1 :: depths) (place.along 1) rest.tail
        | token =>
          (token, at') :: tokensFrom count token.endsOperand (braces token depths) place rest
    match depths, cs with
    | 0 :: outer, cs => go outer (continueBack place cs)
    | _, [] => [(.finish, place)]
    | depths, c :: cs => go depths (readPiece behindOperand place c cs)

def tokens (source : String) : Tokens :=
  tokensFrom (2 * source.length + 2) false [] .start source.toList

end RowRecipe.Expression
