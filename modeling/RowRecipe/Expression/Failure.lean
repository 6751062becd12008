import RowRecipe.Expression.Value
import RowRecipe.Text.Pieces

/-!
# Why an expression has no value

A failure has a cause and a place. One that arises in a function or in a script that an expression
runs also tells what was called, and where.
-/
namespace RowRecipe.Expression

inductive ArithmeticFault where
  | overflow (operator : Operator) (left right : Int)
  | divisionByZero (left : Int)
  | modulo (left right : Int)
  | negativePower (left right : Int)
  /-- There is no number of the same size with the other sign. -/
  | negation
  | size (value : Int)
  | signOfNothing
  /-- Numbers are to be no distance apart. -/
  | zeroStep
  | futureMoment
  deriving Repr, DecidableEq

/-- What an operator on whole numbers does. -/
def Operator.activity : Operator → String
  | .add => "Addition"
  | .subtract => "Subtraction"
  | .multiply => "Multiplication"
  | .divide => "Division"
  | .power => "Exponential"
  | _ => "Modulo"

def ArithmeticFault.message : ArithmeticFault → String
  | .overflow operator left right =>
    operator.activity ++ " overflow: " ++ integerText left ++ " " ++ operator.symbol ++ " "
      ++ integerText right
  | .divisionByZero left => "Division by zero: " ++ integerText left ++ " / 0"
  | .modulo left right =>
    "Modulo division by zero or overflow: " ++ integerText left ++ " % " ++ integerText right
  | .negativePower left right =>
    "Integer raised to a negative power: " ++ integerText left ++ " ** " ++ integerText right
  | .negation => "integer overflow"
  | .size value => "Negation overflow: -" ++ integerText value
  | .signOfNothing => "Sign of NaN is undefined"
  | .zeroStep => "step value cannot be zero"
  | .futureMoment => "time-stamp is later than now"

/-- Why a text is no number. -/
inductive NumberFault where
  | emptyInteger | badDigit | tooLarge | tooSmall | emptyFloat | badFloat
  deriving Repr, DecidableEq

def NumberFault.message : NumberFault → String
  | .emptyInteger => "cannot parse integer from empty string"
  | .badDigit => "invalid digit found in string"
  | .tooLarge => "number too large to fit in target type"
  | .tooSmall => "number too small to fit in target type"
  | .emptyFloat => "cannot parse float from empty string"
  | .badFloat => "invalid float literal"

inductive Cause where
  | unknownVariable (name : String)
  | unknownFunction (name : String) (types : List String)
  | unknownModule (name : String)
  | wrongType (found expected : String)
  /-- What a text stands for as a whole is of another type. -/
  | wrongResult (found expected : String)
  | arithmetic (fault : ArithmeticFault)
  | badInteger (text : String) (fault : NumberFault)
  | badFloat (text : String) (fault : NumberFault)
  | badRadix (radix : Int)
  | floatTooLarge (value : Float)
  | arrayBounds (size : Nat) (index : Int)
  | textBounds (size : Nat) (index : Int)
  | bitBounds (index : Int)
  | unknownProperty (name type : String)
  /-- A value of a type cannot become a property. -/
  | fixedProperty (name type part : String)
  /-- There is no getting a part of a value at an index, or no setting it to one of a type. -/
  | noIndexer (type index : String) (part : Option String)
  | notIterable
  | unboundThis
  | constant (name : String)
  /-- The type of items that cannot be sorted, unless they are of several types. -/
  | unsortable (type : Option String)
  | badFunctionName (name : String)
  | syntaxFault (message : String)
  | thrown (text : String)
  | stackOverflow
  | tooManyRounds
  deriving DecidableEq

/-- How many of something there are. -/
def countText (count : Nat) (single many none : String) : String :=
  if count = 0 then none
  else if count = 1 then "only 1 " ++ single
  else "only " ++ integerText count ++ " " ++ many

namespace Cause

/-- The function that there is none of. -/
def function? : Cause → Option String
  | .unknownFunction name types => some (name ++ " (" ++ Text.join ", " types ++ ")")
  | .unsortable none => some "elements of different types cannot be sorted"
  | .unsortable (some type) => some ("elements of " ++ type ++ " cannot be sorted")
  | .badFunctionName name => some name
  | _ => none

/-- What is wrong with a property. -/
def property? : Cause → Option String
  | .unknownProperty name type =>
    some ("Unknown property '" ++ name ++ "' - a getter is not registered for type '" ++ type
      ++ "'")
  | .fixedProperty name type part =>
    some ("No writable property '" ++ name ++ "' - a setter is not registered for type '" ++ type
      ++ "' to handle '" ++ part ++ "'")
  | _ => none

/-- The indexer that there is none of. -/
def indexer? : Cause → Option String
  | .noIndexer type index none => some (type ++ " [" ++ index ++ "]")
  | .noIndexer type index (some part) => some (type ++ " [" ++ index ++ "] = " ++ part)
  | _ => none

/-- What is wrong with numbers. -/
def arithmetic? : Cause → Option String
  | .arithmetic fault => some fault.message
  | .badInteger text fault =>
    some ("Error parsing integer number '" ++ text ++ "': " ++ fault.message)
  | .badFloat text fault =>
    some ("Error parsing floating-point number '" ++ text ++ "': " ++ fault.message)
  | .badRadix radix => some ("Invalid radix: '" ++ integerText radix ++ "'")
  | .floatTooLarge value =>
    some ("Integer overflow: to_int(" ++ FloatLayout.plain.text value ++ ")")
  | _ => none

def message (cause : Cause) : String :=
  match cause with
  | .unknownVariable name => "Variable not found: " ++ name
  | .unknownModule name => "Module not found: " ++ name
  | .wrongType found expected =>
    "Data type incorrect: " ++ found ++ " (expecting " ++ expected ++ ")"
  | .wrongResult found expected =>
    "Output type incorrect: " ++ found ++ " (expecting " ++ expected ++ ")"
  | .arrayBounds size index =>
    "Array index " ++ integerText index ++ " out of bounds: "
      ++ countText size "element in array" "elements in array" "array is empty"
  | .textBounds size index =>
    "String index " ++ integerText index ++ " out of bounds: "
      ++ countText size "character in string" "characters in string" "string is empty"
  | .bitBounds index =>
    "Bit-field index " ++ integerText index ++ " out of bounds: only 64 bits in bit-field"
  | .notIterable => "For loop expects iterable type"
  | .unboundThis => "'this' not bound"
  | .constant name => "Cannot modify constant: " ++ name
  | .syntaxFault message => "Syntax error: " ++ message
  | .thrown text => if text = "" then "Runtime error" else "Runtime error: " ++ text
  | .stackOverflow => "Stack overflow"
  | .tooManyRounds => "Too many operations"
  | cause =>
    match cause.function?, cause.indexer? with
    | some function, _ => "Function not found: " ++ function
    | none, some indexer => "Indexer unavailable: " ++ indexer
    | none, none => (cause.property?.or cause.arithmetic?).getD ""

end Cause

/-- There is no function of a name for some arguments. -/
def unknownFunction (name : String) (arguments : List Value) : Cause :=
  .unknownFunction name (arguments.map Value.argumentType)

/-- A call in which something goes wrong: the name of the function, unless it has none, and the
place of the call. -/
structure FailedCall where
  function : Option String
  position : Position
  deriving DecidableEq

def FailedCall.message (call : FailedCall) : String :=
  (match call.function with
    | some name => "\nin call to function '" ++ name ++ "'"
    | none => "\nin closure call") ++ call.position.suffix

/-- Why an expression has no value, where, and in which calls, the innermost one first. -/
structure Failure where
  cause : Cause
  position : Position
  calls : List FailedCall
  deriving DecidableEq

namespace Failure

/-- A failure outside all calls. Numbers that are no distance apart count as a failed call of the
function that is to make them. -/
def at' (position : Position) (cause : Cause) : Failure :=
  match cause with
  | .arithmetic .zeroStep => ⟨cause, .nowhere, [⟨some "range", position⟩]⟩
  | cause => ⟨cause, position, []⟩

/-- A failure seen from outside a call. -/
def inside (failure : Failure) (function : Option String) (position : Position) : Failure :=
  { failure with calls := failure.calls ++ [⟨function, position⟩] }

/-- The place of a failure as it is seen from outside all calls. -/
def outerPosition (failure : Failure) : Position :=
  match failure.calls.getLast? with
  | some call => call.position
  | none => failure.position

/-- A failure that is seen at another place from outside all calls. -/
def movedTo (position : Position) (failure : Failure) : Failure :=
  match failure.calls.getLast? with
  | some call =>
    { failure with calls := failure.calls.dropLast ++ [{ call with position := position }] }
  | none => { failure with position := position }

def message (failure : Failure) : String :=
  failure.cause.message ++ failure.position.suffix
    ++ String.join (failure.calls.map FailedCall.message)

end Failure

end RowRecipe.Expression
