import RowRecipe.Recipe.Pattern
import RowRecipe.SortedMap

/-!
# Matching tokens with a pattern

Pattern and tokens are walked through together. A group takes what it can from the tokens at hand,
or nothing if it does not match them, and what it took is never given back. Whatever an argument
takes is bound to its name, the last of several arguments with one name winning.
-/
namespace RowRecipe

/-- The tokens that arguments are bound to. -/
abbrev Bindings := SortedMap String

mutual

/-- What one pattern token binds, and the tokens that it leaves. -/
def PatternToken.take : PatternToken → List String →
    Except Pattern.Mismatch (List (String × String) × List String)
  | .argument name, [] => .error (.missingValue name)
  | .argument name, token :: tokens => .ok ([(name, token)], tokens)
  | .literal word, [] => .error (.missingWord word)
  | .literal word, token :: tokens =>
    if token = word then .ok ([], tokens) else .error (.otherWord word token)
  | .optional inner, tokens =>
    match takeAll inner tokens with
    | .ok taken => .ok taken
    | .error _ => .ok ([], tokens)

/-- What pattern tokens bind one after another, and the tokens that they leave. -/
def takeAll : List PatternToken → List String →
    Except Pattern.Mismatch (List (String × String) × List String)
  | [], tokens => .ok ([], tokens)
  | first :: rest, tokens => do
    let (bound, tokens) ← first.take tokens
    let (others, tokens) ← takeAll rest tokens
    return (bound ++ others, tokens)

end

namespace Pattern

/-- Matches all of the tokens. -/
def bindings (pattern : Pattern) (tokens : List String) : Except Mismatch Bindings := do
  let (bound, rest) ← takeAll pattern tokens
  match rest with
  | [] => return SortedMap.ofList bound
  | extra :: _ => throw (.unexpected extra)

end Pattern

end RowRecipe
