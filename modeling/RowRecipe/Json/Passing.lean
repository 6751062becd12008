import RowRecipe.Json.Scalar

/-!
# Values that are passed over

A value that nobody asks for must still be JSON, but its strings need not stand for characters and
its numbers may have any size.
-/
namespace RowRecipe.Json

/-- The number of characters of an escape after its backslash. -/
def passEscape (cs : List Char) (offset : Nat) : Except Fault Nat :=
  match cs with
  | [] => .error ⟨.endInText, offset⟩
  | c :: cs =>
    if c = 'u' then (readHexUnit cs (offset + 1)).map fun _ => 5
    else if (plainEscape? c).isSome then .ok 1
    else .error ⟨.badEscape, offset + 1⟩

/-- Passes the inside of a string; `skip` characters belong to an escape passed before. -/
def passTextFrom : Nat → List Char → Nat → Except Fault Place
  | _, [], offset => .error ⟨.endInText, offset⟩
  | skip + 1, c :: cs, offset => passTextFrom skip cs (offset + c.utf8Size)
  | 0, c :: cs, offset =>
    if c = '"' then .ok ⟨cs, offset + 1⟩
    else if c = '\\' then
      match passEscape cs (offset + 1) with
      | .error fault => .error fault
      | .ok length => passTextFrom length cs (offset + 1)
    else if c.toNat < 0x20 then .error ⟨.controlCharacter, offset⟩
    else passTextFrom 0 cs (offset + c.utf8Size)

def passText (place : Place) : Except Fault Place :=
  passTextFrom 0 place.rest place.offset

def passExponent (place : Place) : Except Fault Place :=
  match place.rest with
  | 'e' :: _ | 'E' :: _ =>
    let place := place.drop 1
    let place := match place.rest with
      | '+' :: _ | '-' :: _ => place.drop 1
      | _ => place
    match place.digits with
    | ([], _) => place.failAhead .badNumber
    | (_, behind) => .ok behind
  | _ => .ok place

/-- Passes a number after its sign. -/
def passNumber (place : Place) : Except Fault Place :=
  match place.digits with
  | ([], _) => place.failAhead .badNumber
  | ('0' :: _ :: _, _) => (place.drop 1).failAhead .badNumber
  | (_, behind) =>
    match behind.rest with
    | '.' :: _ =>
      match (behind.drop 1).digits with
      | ([], behind) => behind.failAhead .badNumber
      | (_, behind) => passExponent behind
    | _ => passExponent behind

/-- An array or an object that is not closed yet. -/
inductive Bracket where
  | array
  | object
  deriving Repr, DecidableEq

namespace Bracket

/-- What is wrong when the text ends inside. -/
def ending : Bracket → Problem
  | .array => .endInArray
  | .object => .endInObject

/-- What is wrong when neither comma nor bracket follows a value inside. -/
def separator : Bracket → Problem
  | .array => .arrayEndExpected
  | .object => .objectEndExpected

def closing : Bracket → Char
  | .array => ']'
  | .object => '\x7d'

end Bracket

def passName (place : Place) : Except Fault Place := do
  let place := place.skip
  match place.rest with
  | [] => place.failAhead .endInObject
  | '"' :: _ =>
    let place := (← passText (place.drop 1)).skip
    match place.rest with
    | [] => place.failAhead .endInObject
    | ':' :: _ => return place.drop 1
    | _ => place.failAhead .colonExpected
  | _ => place.failAhead .nameExpected

mutual

/-- Passes a value and what follows it up to the end of all open brackets, in at most so many
steps. -/
def passFrom : Nat → List Bracket → Place → Except Fault Place
  | 0, _, place => place.fail .tooDeep
  | steps + 1, brackets, place => do
    let place := place.skip
    match place.rest with
    | [] => place.failAhead .endInValue
    | 'n' :: _ => passRest steps brackets true (← readWord ['u', 'l', 'l'] (place.drop 1))
    | 't' :: _ => passRest steps brackets true (← readWord ['r', 'u', 'e'] (place.drop 1))
    | 'f' :: _ => passRest steps brackets true (← readWord ['a', 'l', 's', 'e'] (place.drop 1))
    | '-' :: _ => passRest steps brackets true (← passNumber (place.drop 1))
    | '"' :: _ => passRest steps brackets true (← passText (place.drop 1))
    | '[' :: _ => passRest steps (.array :: brackets) false (place.drop 1)
    | '\x7b' :: _ => passRest steps (.object :: brackets) false (place.drop 1)
    | c :: _ =>
      if c.isDigit then passRest steps brackets true (← passNumber place)
      else place.failAhead .valueExpected

/-- Passes what follows a value or, at the front of an array or object, an opening bracket. -/
def passRest : Nat → List Bracket → (afterValue : Bool) → Place → Except Fault Place
  | _, [], _, place => .ok place
  | 0, _ :: _, _, place => place.fail .tooDeep
  | steps + 1, bracket :: brackets, afterValue, place =>
    let place := place.skip
    match place.rest with
    | [] => place.failAhead bracket.ending
    | c :: _ =>
      if c = bracket.closing then passRest steps brackets true (place.drop 1)
      else if afterValue then
        if c = ',' then passNext steps bracket brackets (place.drop 1)
        else place.failAhead bracket.separator
      else passNext steps bracket brackets place

/-- Passes an item of an array or a member of an object. -/
def passNext : Nat → Bracket → List Bracket → Place → Except Fault Place
  | 0, _, _, place => place.fail .tooDeep
  | steps + 1, .array, brackets, place => passFrom steps (.array :: brackets) place
  | steps + 1, .object, brackets, place => do
    passFrom steps (.object :: brackets) (← passName place)

end

/-- Passes a value. A value takes no more than three steps for each of its characters. -/
def passValue (place : Place) : Except Fault Place :=
  passFrom (3 * place.rest.length + 1) [] place

end RowRecipe.Json
