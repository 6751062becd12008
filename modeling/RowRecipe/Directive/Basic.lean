import RowRecipe.Directive.RowDirective
import RowRecipe.Sampling

/-!
# Directives

A directive takes a batch of rows and the variables. Those that come with the library work on single
rows, set or increment a variable once for each row, or take a sample; others are whatever a caller
supplies.
-/
namespace RowRecipe

/-- The directives of the library. -/
inductive Builtin where
  | row (directive : RowDirective)
  | setVariable (name : String) (expression : Expression)
  | incrementVariable (name : String) (delta : Int64) (condition : Expression)
  | sample (sampling : Sampling)

/-- A directive of the library, or one that is supplied. -/
inductive Directive where
  | builtin (directive : Builtin)
  | custom (execute : List Row → Store → Execution)

namespace Builtin

/-- Sets a variable for each row, which sees the value of the row before. -/
def setForEach (name : String) (expression : Expression) :
    List Row → Store → Except DirectiveError Unit × Store
  | [], store => (.ok (), store)
  | current :: rows, store =>
    match expression.cellFor current store with
    | .error fault => (.error fault, store)
    | .ok value => setForEach name expression rows (store.insert name value)

def incrementForEach (name : String) (delta : Int64) (condition : Expression) :
    List Row → Store → Except DirectiveError Unit × Store
  | [], store => (.ok (), store)
  | current :: rows, store =>
    match condition.holdsFor current store with
    | .error fault => (.error fault, store)
    | .ok false => incrementForEach name delta condition rows store
    | .ok true =>
      match store.increment name delta with
      | .error fault => (.error (.store fault), store)
      | .ok store => incrementForEach name delta condition rows store

/-- Keeps all rows unless the variables could not be set. -/
def keepAll (rows : List Row) (result : Except DirectiveError Unit × Store) : Execution :=
  (match result.1 with
    | .error fault => .error (.error fault)
    | .ok () => .ok (rows.map .keep), result.2)

def execute (directive : Builtin) (rows : List Row) (store : Store) : Execution :=
  match directive with
  | .row directive =>
    (match directive.applyAll store rows with
      | .error fault => .error (.error fault)
      | .ok outcomes => .ok outcomes, store)
  | .setVariable name expression => keepAll rows (setForEach name expression rows store)
  | .incrementVariable name delta condition =>
    keepAll rows (incrementForEach name delta condition rows store)
  | .sample sampling => (.ok ((sampling.select rows).map .keep), store)

end Builtin

def Directive.execute (directive : Directive) (rows : List Row) (store : Store) : Execution :=
  match directive with
  | .builtin directive => directive.execute rows store
  | .custom execute => execute rows store

end RowRecipe
