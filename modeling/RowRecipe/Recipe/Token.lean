import RowRecipe.Number.Layout
import RowRecipe.Text.Blank

/-!
# Tokens of a recipe line

A line is cut into tokens at blank characters. Single and double quotes keep blanks together and
are no part of a token themselves; a backslash in front of a quote, inside quotes or outside, makes
the quote an ordinary character, and every other backslash is one. Quotes with nothing between them
are an empty token.
-/
namespace RowRecipe

inductive TokenError where
  /-- A quote that is never closed, and the number of bytes in front of it. -/
  | unterminatedQuote (quote : Char) (offset : Nat)
  deriving Repr, DecidableEq

namespace TokenError

def message : TokenError → String
  | .unterminatedQuote quote offset =>
    "Unterminated " ++ quote.toString ++ " quote starting at offset " ++ integerText offset

end TokenError

def isQuote (c : Char) : Bool :=
  c == '\'' || c == '"'

/-- Appends a character to a token that may not have begun. -/
def extendToken (token : Option (List Char)) (c : Char) : Option (List Char) :=
  some (token.getD [] ++ [c])

/-- The tokens of a line that is read from a byte offset on, inside a quote that was opened at some
offset or outside, with the token read so far, if one has begun. -/
def tokenizeFrom (offset : Nat) (quote : Option (Char × Nat)) (token : Option (List Char)) :
    List Char → Except TokenError (List (List Char))
  | [] =>
    match quote with
    | some (opening, start) => .error (.unterminatedQuote opening start)
    | none => .ok token.toList
  | '\\' :: '\'' :: cs => tokenizeFrom (offset + 2) quote (extendToken token '\'') cs
  | '\\' :: '"' :: cs => tokenizeFrom (offset + 2) quote (extendToken token '"') cs
  | c :: cs =>
    match quote with
    | some (opening, _) =>
      if c = opening then tokenizeFrom (offset + c.utf8Size) none token cs
      else tokenizeFrom (offset + c.utf8Size) quote (extendToken token c) cs
    | none =>
      if isQuote c then
        tokenizeFrom (offset + c.utf8Size) (some (c, offset)) (some (token.getD [])) cs
      else if Text.isBlank c then
        (tokenizeFrom (offset + c.utf8Size) none none cs).map (token.toList ++ ·)
      else tokenizeFrom (offset + c.utf8Size) none (extendToken token c) cs

def tokenize (line : String) : Except TokenError (List String) :=
  (tokenizeFrom 0 none none line.toList).map (·.map String.ofList)

end RowRecipe
