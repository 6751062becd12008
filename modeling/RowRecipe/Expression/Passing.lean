import RowRecipe.Expression.Problem

/-!
# Passing tokens

A reader takes tokens from the front of a list, or says what is wrong with it and where. Behind the
last token the end stands any number of times. It knows the variables that the text has declared so
far and the functions that it has defined.
-/
namespace RowRecipe.Expression

/-- A variable that the text declares. -/
structure Declared where
  name : String
  constant : Bool

/-- What is left of a text, and what is known of it so far. -/
structure Reading where
  tokens : Tokens
  /-- The variables declared around this place, the last one first. -/
  declared : List Declared
  /-- The names of the functions defined so far, which may be none, and their parameters counted. -/
  functions : List (String × Nat)

/-- A reader of tokens. -/
abbrev Reader := StateT Reading (Except SourceError)

def headToken : Tokens → Token × Position
  | [] => (.finish, .start)
  | token :: _ => token

namespace Reader

variable {α : Type}

def fail (place : Position) (problem : Problem) : Reader α :=
  throw ⟨problem, place⟩

def peek : Reader (Token × Position) :=
  return headToken (← get).tokens

def advance : Reader Unit :=
  modify fun reading => { reading with tokens := reading.tokens.tail }

def next : Reader (Token × Position) := do
  let token ← peek
  advance
  return token

def remaining : Reader Nat :=
  return (← get).tokens.length

/-- Says that a token is missing where another one stands. -/
def failMissing (found : Token × Position) (token purpose : String) : Reader α :=
  match found with
  | (.bad fault, place) => fail place (.lexical fault)
  | (_, place) => fail place (.missing token purpose)

/-- Passes a symbol that must stand here. -/
def passSymbol (symbol purpose : String) : Reader Unit := do
  let found ← next
  if found.1 = .symbol symbol then return
  else failMissing found symbol purpose

def tryPass (symbol : String) : Reader Bool := do
  let (token, _) ← peek
  if token = .symbol symbol then
    advance
    return true
  else return false

/-- Whether a symbol stands here. -/
def seesSymbol (symbol : String) : Reader Bool :=
  return (← peek).1 = .symbol symbol

def seesArguments : Reader Bool := do
  let (token, _) ← peek
  return token = .symbol "(" || token = .unit

def passName : Reader (String × Position) := do
  match ← next with
  | (.name name, place) => return (name, place)
  | (.reserved text, place) =>
    fail place (if isReservedWord text then .reserved text else .noVariable)
  | (.bad fault, place) => fail place (.lexical fault)
  | (_, place) => fail place .noVariable

def note (constant : Bool) (name : String) : Reader Unit :=
  modify fun reading => { reading with declared := ⟨name, constant⟩ :: reading.declared }

def noteFunction (name : String) (parameters : Nat) : Reader Unit :=
  modify fun reading => { reading with functions := (name, parameters) :: reading.functions }

/-- Reads what sees some variables declared around it, its own ones being gone behind it. -/
def seeing (sees : List Declared → List Declared) (inner : Reader α) : Reader α := do
  let outside := (← get).declared
  modify fun reading => { reading with declared := sees outside }
  let result ← inner
  modify fun reading => { reading with declared := outside }
  return result

/-- Reads what a block holds. -/
def withinBlock (inner : Reader α) : Reader α :=
  seeing id inner

def withinFunction (parameters : List String) (inner : Reader α) : Reader α :=
  seeing (fun _ => parameters.reverse.map (⟨·, false⟩)) inner

/-- Reads items parted by commas up to a closing symbol, of which there are at most so many. -/
def items (close closing parting : String) (item : Reader α) : Nat → Reader (List α)
  | 0 => do
    let (_, place) ← peek
    fail place .incomplete
  | count + 1 => do
    if ← tryPass close then return []
    else
      match ← peek with
      | (.finish, place) => fail place (.missing close closing)
      | _ =>
        let first ← item
        match ← peek with
        | (.finish, place) => fail place (.missing close closing)
        | found =>
          if found.1 = .symbol close then
            advance
            return [first]
          else if found.1 = .symbol "," then
            advance
            return first :: (← items close closing parting item count)
          else failMissing found "," parting

end Reader

end RowRecipe.Expression
