import RowRecipe.Expression
import RowRecipe.Store

/-!
# Outcomes of directives

A directive keeps rows, or diverts them with a message and a code. What it cannot do for any row
ends the run.
-/
namespace RowRecipe

/-- What becomes of a row. -/
inductive Outcome where
  | keep (row : Row)
  | divert (row : Row) (message : String) (code : Int)

namespace Outcome

def defaultCode : Int := 1

def isKept : Outcome → Bool
  | .keep _ => true
  | .divert _ _ _ => false

def keptCount (outcomes : List Outcome) : Nat :=
  outcomes.countP isKept

def divertedCount (outcomes : List Outcome) : Nat :=
  outcomes.length - keptCount outcomes

def row : Outcome → Row
  | .keep row | .divert row _ _ => row

end Outcome

inductive DirectiveError where
  | missingColumn (column : String)
  | typeMismatch (column problem : String)
  | expression (source : String) (fault : Expression.Fault)
  | store (fault : StoreError)
  | failed (problem : String)
  deriving DecidableEq

def DirectiveError.message : DirectiveError → String
  | .missingColumn column => "Column '" ++ column ++ "' is not defined in the row"
  | .typeMismatch column problem => "Type mismatch in column '" ++ column ++ "': " ++ problem
  | .expression source fault => "Expression '" ++ source ++ "' failed: " ++ fault.message
  | .store fault => fault.message
  | .failed problem => problem

/-- What ends a run: a failure, or the breakdown of a directive. -/
inductive Fault where
  | error (error : DirectiveError)
  | breakdown (message : Option String)
  deriving DecidableEq

def Fault.message : Fault → String
  | .error cause => cause.message
  | .breakdown none => "panicked"
  | .breakdown (some message) => "panicked: " ++ message

/-- What a directive does with a batch, and the variables afterwards, whether it fails or not. -/
abbrev Execution := Except Fault (List Outcome) × Store

namespace Expression

/-- The value of an expression, for a directive. -/
def cellFor (expression : Expression) (row : Row) (store : Store) : Except DirectiveError Cell :=
  match expression.evaluate row store with
  | .ok value => .ok value
  | .error fault => .error (.expression expression.source fault)

/-- The truth value of a condition, for a directive. -/
def holdsFor (expression : Expression) (row : Row) (store : Store) : Except DirectiveError Bool :=
  match expression.test row store with
  | .ok value => .ok value
  | .error fault => .error (.expression expression.source fault)

end Expression

end RowRecipe
