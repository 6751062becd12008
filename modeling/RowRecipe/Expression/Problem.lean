import RowRecipe.Expression.TokenList

/-!
# What is wrong with the text of an expression

A token that cannot be understood, or that is missing or left over, is told with its place.
-/
namespace RowRecipe.Expression

/-- Why tokens are no expression. -/
inductive Problem where
  | incomplete
  | lexical (fault : LexicalFault)
  | unexpected (token : String)
  | missing (token purpose : String)
  | noProperty
  | noVariable
  | reserved (word : String)
  | unknownOperator (symbol : String)
  | duplicateProperty (name : String)
  /-- A parameter of a function, which may have a name. -/
  | duplicateParameter (name function : String)
  | duplicateVariable (name : String)
  | duplicateFunction (name : String) (parameters : Nat)
  | noFunctionName
  | noParameters (function : String)
  | noBody (function : String)
  | exportInside
  /-- A literal that is no truth value where one is needed. -/
  | notBoolean (found : String)
  | notTree (wanted : String)
  | badIndex (reason : String)
  | badSymbol (symbol : String)
  | badCapture
  | outsideFunction (word : String)
  | moduleCall
  | likelyTypo
  | defaultNotLast
  | guardedDefault
  | lateNumber
  | notAssignable
  | constantTarget (name : String)
  | leavesNoLoop
  | badFunctionDefinition
  | tooDeep
  deriving Repr, DecidableEq

/-- Whether a reserved text is a word, and no symbol. -/
def isReservedWord (text : String) : Bool :=
  isName text.toList

def Problem.message : Problem → String
  | .incomplete => "Script is incomplete"
  | .lexical fault => fault.message
  | .unexpected token => "Unexpected '" ++ token ++ "'"
  | .missing token purpose => "Expecting '" ++ token ++ "' " ++ purpose
  | .noProperty => "Expecting name of a property"
  | .noVariable => "Expecting name of a variable"
  | .reserved word =>
    "'" ++ word ++ "' is a reserved " ++ (if isReservedWord word then "keyword" else "symbol")
  | .unknownOperator symbol => "Unknown operator: '" ++ symbol ++ "'"
  | .duplicateProperty name => "Duplicated property for object map literal: " ++ name
  | .duplicateParameter name function =>
    "Duplicated parameter " ++ name ++ " for function"
      ++ (if function = "" then "" else " " ++ function)
  | .duplicateVariable name => "Duplicated variable name: " ++ name
  | .duplicateFunction name count =>
    "Function " ++ name ++ " with " ++ (if count = 0 then "no parameters"
      else if count = 1 then "1 parameter" else integerText count ++ " parameters")
      ++ " already exists"
  | .noFunctionName => "Expecting function name in function declaration"
  | .noParameters function => "Expecting parameters for function " ++ function
  | .noBody function => "Expecting body statement block for function " ++ function
  | .exportInside => "Export statement can only appear at global level"
  | .notBoolean found => "Expecting a boolean expression, not " ++ found
  | .notTree wanted => "Expecting " ++ wanted ++ " expression"
  | .badIndex reason => reason
  | .badSymbol symbol => "Invalid symbol encountered: '" ++ symbol ++ "'"
  | .badCapture => "method-call style does not support running within the caller's scope"
  | .outsideFunction word => "'" ++ word ++ "' can only be used in functions"
  | .moduleCall => "'!' cannot be used to call module functions"
  | .likelyTypo => "Possibly a typo of '=='?"
  | .defaultNotLast => "Default switch case must be the last"
  | .guardedDefault => "This switch case cannot have a condition"
  | .lateNumber => "Numeric switch case cannot follow a range case"
  | .notAssignable => "Expression cannot be assigned to"
  | .constantTarget name =>
    if name = "" then "Cannot assign to a constant value"
    else "Cannot assign to constant " ++ name
  | .leavesNoLoop => "Break statement should only be used inside a loop"
  | .badFunctionDefinition =>
    "Function definitions must be at global level and cannot be inside a block or another function"
  | .tooDeep => "Expression exceeds maximum complexity"

/-- What is wrong with the text of an expression, and where. -/
structure SourceError where
  problem : Problem
  position : Position
  deriving Repr, DecidableEq

def SourceError.message (fault : SourceError) : String :=
  fault.problem.message ++ fault.position.suffix

end RowRecipe.Expression
