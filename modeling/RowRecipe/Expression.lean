import RowRecipe.Expression.Evaluation
import RowRecipe.Expression.Simplify
import RowRecipe.Store

/-!
# Expressions over rows

An expression is compiled once and evaluated for each row. Its variables are the columns whose names
are identifiers, the first of several with one name, and the variables of the run, which hide
columns of the same name.
-/
namespace RowRecipe

/-- An expression with its text. -/
structure Expression where
  source : String
  tree : Expression.Tree

namespace Expression

def compile (source : String) : Except SourceError Expression :=
  (Tree.parse source).map fun tree => ⟨source, tree.simplify⟩

/-- Whether a name can be that of a variable. -/
def isIdentifier (name : String) : Bool :=
  match name.toList with
  | [] => false
  | c :: cs => beginsName c && cs.all isNameChar

/-- Variables with their values, the latest in front. -/
abbrev Bindings := List (String × Value)

/-- Binds the cells of a row whose names are identifiers, unless their names are bound already. -/
def bindCells : Row → Bindings → Bindings
  | [], bound => bound
  | (name, value) :: cells, bound =>
    if isIdentifier name && (lookupEntry name bound).isNone then
      bindCells cells ((name, Value.ofCell value) :: bound)
    else bindCells cells bound

/-- Binds variables of the run, whether or not their names are bound already. -/
def bindVariables : List (String × Cell) → Bindings → Bindings
  | [], bound => bound
  | (name, value) :: entries, bound =>
    bindVariables entries ((name, Value.ofCell value) :: bound)

/-- What is bound for a row: its cells first, and then the variables of the run. -/
def bindings (row : Row) (store : Store) : Bindings :=
  bindVariables store.entries (bindCells row [])

/-- The variables that an expression sees, each with its latest value. -/
def scope (row : Row) (store : Store) : Scope :=
  .ofFirsts (bindings row store)

/-- Why an expression has no value, or a condition no truth value, for a row. -/
inductive Fault where
  | failure (failure : Failure)
  | notBoolean (found : String)
  deriving DecidableEq

def Fault.message : Fault → String
  | .failure inner => inner.message
  | .notBoolean found => "condition must evaluate to a boolean, got " ++ found

def evaluate (expression : Expression) (row : Row) (store : Store) : Except Fault Cell :=
  match expression.tree.value (scope row store) with
  | .ok value => .ok value.toCell
  | .error failure => .error (.failure failure)

def test (expression : Expression) (row : Row) (store : Store) : Except Fault Bool :=
  match expression.evaluate row store with
  | .ok (.boolean value) => .ok value
  | .ok other => .error (.notBoolean other.typeName)
  | .error fault => .error fault

end Expression

end RowRecipe
