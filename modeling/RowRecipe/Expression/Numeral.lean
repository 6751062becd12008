import RowRecipe.Expression.Token
import RowRecipe.Number.Reading

/-!
# Numbers in expressions

Digits may be parted by underscores. A number in base ten with a point or an exponent is a float,
and so is one that is no whole number of 64 bits. A number in another base fills 64 bits.
-/
namespace RowRecipe.Expression

/-- Digits with underscores among them, and what follows. -/
def takeDigits (isDigit : Char → Bool) (cs : List Char) : List Char × List Char :=
  let (digits, rest) := cs.span fun c => isDigit c || c == '_'
  (digits.filter (· != '_'), rest)

/-- A point and the digits behind it, if they belong to a number: behind the point comes a digit, or
something that begins no name. -/
def takeFraction (cs : List Char) : List Char × List Char :=
  match cs with
  | '.' :: c :: rest =>
    if c.isDigit then
      let (digits, rest) := takeDigits Char.isDigit (c :: rest)
      ('.' :: digits, rest)
    else if c = '_' ∨ c = '.' ∨ c.isAlpha then ([], cs)
    else (['.', '0'], c :: rest)
  | _ => ([], cs)

/-- An exponent, if it belongs to a number. -/
def takeExponent (cs : List Char) : List Char × List Char :=
  match cs with
  | mark :: c :: rest =>
    if mark ≠ 'e' ∧ mark ≠ 'E' then ([], cs)
    else if c.isDigit then
      let (digits, rest) := takeDigits Char.isDigit (c :: rest)
      (mark :: digits, rest)
    else if c = '+' ∨ c = '-' then
      let (digits, rest) := takeDigits Char.isDigit rest
      (mark :: c :: digits, rest)
    else ([], cs)
  | _ => ([], cs)

/-- The value of a digit in a base up to sixteen. -/
def digitValue? (base : Nat) (c : Char) : Option Nat :=
  let value :=
    if c.isDigit then c.toNat - '0'.toNat
    else if 'a' ≤ c ∧ c ≤ 'f' then c.toNat - 'a'.toNat + 10
    else if 'A' ≤ c ∧ c ≤ 'F' then c.toNat - 'A'.toNat + 10
    else base
  if value < base then some value else none

/-- The number that digits of a base spell, after the digits already read. -/
def baseValue? (base read : Nat) : List Char → Option Nat
  | [] => some read
  | c :: cs => (digitValue? base c).bind fun value => baseValue? base (read * base + value) cs

def base? (c : Char) : Option Nat :=
  if c = 'x' ∨ c = 'X' then some 16
  else if c = 'o' ∨ c = 'O' then some 8
  else if c = 'b' ∨ c = 'B' then some 2
  else none

/-- The token of a number in a base other than ten. It has no sign. -/
def baseToken (negative : Bool) (letter : Char) (base : Nat) (digits : List Char) : Token :=
  if negative then .bad (.badNumber (String.ofList (letter :: digits)))
  else
    match baseValue? base 0 digits with
    | some value =>
      if digits = [] ∨ Nat.pow 2 64 ≤ value then .bad (.badNumber (String.ofList digits))
      else .whole (Int64.ofInt value)
    | none => .bad (.badNumber (String.ofList digits))

/-- The token of a number in base ten. -/
def decimalToken (text : List Char) : Token :=
  match readWhole? text with
  | some value => .whole value
  | none =>
    match readFloat? text with
    | some value => .float value
    | none => .bad (.badNumber (String.ofList text))

def readNumber (negative : Bool) (cs : List Char) : Token × List Char :=
  let (digits, rest) := takeDigits Char.isDigit cs
  let based := match digits, rest with
    | ['0'], c :: rest => (base? c).map (c, ·, rest)
    | _, _ => none
  match based with
  | some (letter, base, rest) =>
    let (digits, rest) := takeDigits (fun c => (digitValue? base c).isSome) rest
    (baseToken negative letter base digits, rest)
  | none =>
    let (fraction, rest) := takeFraction rest
    let (exponent, rest) := takeExponent rest
    let sign := if negative then ['-'] else []
    (decimalToken (sign ++ digits ++ fraction ++ exponent), rest)

end RowRecipe.Expression
