import RowRecipe.Expression.Value
import RowRecipe.Expression.Failure
import RowRecipe.SortedMap

/-!
# What an expression runs in

An expression sees the variables around it, and behind them those that it declares itself. A
function has variables of its own, but those that it holds it has in common with what is around it,
in cells. What was changed stays changed even if something goes wrong later.
-/
namespace RowRecipe.Expression

/-- The values of the variables around an expression. -/
abbrev Scope := SortedMap Value

structure Local where
  name : String
  constant : Bool
  value : Value

structure State where
  /-- The declared variables, the last one first. -/
  locals : List Local
  /-- The variables around the expression. -/
  scope : Scope
  /-- The value that the function is a method of. -/
  this : Option Value
  /-- The contents of the cells. -/
  cells : List Value

inductive Halt where
  /-- Something went wrong, maybe because a value was thrown. -/
  | failure (failure : Failure) (thrown : Value)
  /-- The function, or the expression, has this value. -/
  | answer (value : Value)
  /-- The whole expression has this value. -/
  | exit (value : Value)
  /-- The loop has this value. -/
  | leave (value : Value)
  /-- The loop goes on with its next round. -/
  | next

abbrev Eval := ExceptT Halt (StateM State)

/-- Something goes wrong at a place. -/
def failAt {α : Type} (place : Position) (cause : Cause) : Eval α :=
  throw (.failure (.at' place cause) .null)

/-- A computation in a call. -/
def calling {α : Type} (function : Option String) (place : Position) (action : Eval α) : Eval α :=
  tryCatch action fun
    | .failure failure thrown => throw (.failure (failure.inside function place) thrown)
    | halt => throw halt

/-- The result of what may go wrong, at a place. -/
def located {α : Type} (place : Position) : Except Cause α → Eval α
  | .ok value => return value
  | .error cause => failAt place cause

namespace State

/-- The variables around an expression that declares none yet. -/
def ofScope (scope : Scope) : State :=
  ⟨[], scope, none, []⟩

def local? (state : State) (name : String) : Option Local :=
  state.locals.find? fun entry => entry.name == name

/-- What a variable holds, a cell being one of the things that it may hold. -/
def held? (state : State) (name : String) : Option Value :=
  match state.local? name with
  | some entry => some entry.value
  | none => state.scope.get? name

/-- Changes the last one of some variables with a name. -/
def changeLocal (name : String) (value : Value) : List Local → List Local
  | [] => []
  | entry :: entries =>
    if entry.name = name then { entry with value := value } :: entries
    else entry :: changeLocal name value entries

def hold (name : String) (value : Value) (state : State) : State :=
  match state.local? name with
  | some _ => { state with locals := changeLocal name value state.locals }
  | none => { state with scope := state.scope.insert name value }

/-- The value that something held stands for. -/
def contents (state : State) : Value → Value
  | .shared cell => state.cells.getD cell .null
  | value => value

end State

def heldValue (name : String) (place : Position) : Eval Value := do
  match (← get).held? name with
  | some value => return value
  | none => failAt place (.unknownVariable name)

/-- The value of a variable. -/
def readVariable (name : String) (place : Position) : Eval Value := do
  let held ← heldValue name place
  return (← get).contents held

/-- Whether a variable is declared not to change. -/
def isFixed (name : String) : Eval Bool := do
  return ((← get).local? name).any Local.constant

/-- Gives a variable a value, in the cell that it holds if it does. -/
def writeVariable (name : String) (value : Value) : Eval Unit :=
  modify fun state =>
    match state.held? name with
    | some (.shared cell) => { state with cells := state.cells.set cell value }
    | _ => state.hold name value

/-- Makes a variable hold a cell, which functions can have in common with it. -/
def shareVariable (name : String) (place : Position) : Eval Value := do
  match ← heldValue name place with
  | .shared cell => return .shared cell
  | value =>
    let cell := (← get).cells.length
    modify fun state => { state.hold name (.shared cell) with cells := state.cells ++ [value] }
    return .shared cell

def readThis (place : Position) : Eval Value := do
  match (← get).this with
  | some value => return value
  | none => failAt place .unboundThis

def writeThis (value : Value) : Eval Unit :=
  modify fun state => { state with this := some value }

/-- Declares a variable. -/
def declare (constant : Bool) (name : String) (value : Value) : Eval Unit :=
  modify fun state => { state with locals := ⟨name, constant, value⟩ :: state.locals }

/-- Drops the variables that were declared behind the first so many. -/
def forget (count : Nat) : Eval Unit :=
  modify fun state => { state with locals := state.locals.drop (state.locals.length - count) }

/-- Computes with variables that are dropped at the end. -/
def inBlock {α : Type} (action : Eval α) : Eval α := do
  let count := (← get).locals.length
  let result ← tryCatch action fun halt => do
    forget count
    throw halt
  forget count
  return result

/-- Computes with no variables but some declared ones, and with a value that the function is a
method of; gives that value afterwards, too. -/
def inFunction {α : Type} (locals : List Local) (this : Option Value) (action : Eval α) :
    Eval (α × Option Value) := do
  let outside ← get
  set { outside with locals := locals, scope := .empty, this := this }
  let leave : Eval (Option Value) := do
    let inside ← get
    set { outside with cells := inside.cells }
    return inside.this
  let result ← tryCatch action fun halt => do
    let _ ← leave
    throw halt
  return (result, ← leave)

end RowRecipe.Expression
