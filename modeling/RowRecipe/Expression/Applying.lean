import RowRecipe.Expression.Library
import RowRecipe.Expression.Token
import RowRecipe.Expression.State

/-!
# Functions that take functions

A function that is applied to an item takes it as the value that it is a method of if it has no
parameter for it, and the place of the item, too, if it has one more parameter. What it does not
answer with truth counts as falsehood where it is asked.
-/
namespace RowRecipe.Expression

structure Runner where
  /-- Runs a function without a name on arguments and the value that it is a method of; gives its
  result and that value afterwards. -/
  lambda : Lambda → List Value → Option Value → Position → Eval (Value × Option Value)
  /-- Calls a function with a name; gives its result and its first argument afterwards. -/
  named : String → List Value → Position → Eval (Value × Value)
  /-- Runs the text of a script. -/
  script : String → Position → Eval Value
  /-- Reads the text of a map. -/
  json : String → Position → Eval Value

/-- Whether a failure is that there is no function of a name for some arguments. -/
def isUnknown (name : String) : Halt → Bool
  | .failure ⟨.unknownFunction other _, _, []⟩ _ => other == name
  | _ => false

/-- Calls a function with the first of several lists of arguments that there is one for. -/
def callFirst (runner : Runner) (name : String) (place : Position) :
    List (List Value) → Eval (Value × Value)
  | [] => failAt place (.unknownFunction name [])
  | [arguments] => runner.named name arguments place
  | arguments :: others =>
    tryCatch (runner.named name arguments place) fun halt =>
      if isUnknown name halt then callFirst runner name place others else throw halt

/-- What a function is applied to. -/
structure Application where
  /-- The item, which the function is a method of if it has no parameter for it. -/
  item : Option Value
  arguments : List Value
  /-- Arguments that the function need not have parameters for. -/
  extras : List Value
  /-- The number of the argument that the item is if it is one. -/
  slot : Nat

namespace Application

/-- The arguments with the item among them. -/
def whole (application : Application) : List Value :=
  match application.item with
  | some item =>
    application.arguments.take application.slot ++ item
      :: application.arguments.drop application.slot
  | none => application.arguments

/-- The arguments for so many parameters, and the value that the function is a method of. -/
def fitting? (application : Application) (wanted : Nat) : Option (List Value × Option Value) :=
  let count := application.arguments.length
  let extra := application.extras.length
  if wanted = count then some (application.arguments, application.item)
  else if application.item.isSome ∧ wanted = count + 1 then some (application.whole, none)
  else if application.item.isSome ∧ wanted = count + 1 + extra then
    some (application.whole ++ application.extras, none)
  else if wanted = count + extra then
    some (application.arguments ++ application.extras, application.item)
  else none

end Application

/-- Applies a function; gives its result and the item afterwards. -/
def applyFunction (runner : Runner) (function : Value) (application : Application)
    (place : Position) : Eval (Value × Option Value) :=
  match function with
  | .function name held (some lambda) =>
    match application.fitting? (lambda.parameters.length - held.length) with
    | some (arguments, this) => do
      let (result, changed) ← runner.lambda lambda (held ++ arguments) this place
      return (result, changed.or application.item)
    | none => failAt place (unknownFunction name (held ++ application.whole))
  | .function name held none => do
    let method := application.item.toList ++ held ++ application.arguments
    let whole := held ++ application.whole
    let (result, changed) ←
      callFirst runner name place [method, whole, whole ++ application.extras]
    return (result, application.item.map fun _ => changed)
  | value => failAt place (.wrongType value.typeName "Fn")

/-- Whether a result is truth. -/
def isTrue : Value → Bool
  | .boolean value => value
  | _ => false

/-- Asks for the items of an array one after another, from a place on, until a result ends it; gives
the results together with the items afterwards. -/
def visit (ask : Nat → Value → Eval (Value × Value)) (ends : Value → Bool) :
    Nat → List Value → Eval (List (Value × Value))
  | _, [] => return []
  | place, item :: items => do
    let (result, item) ← ask place item
    if ends result then return [(result, item)]
    else return (result, item) :: (← visit ask ends (place + 1) items)

/-- Applies a function to an item at a place of an array. -/
def askItem (runner : Runner) (function : Value) (place : Position) (index : Nat) (item : Value) :
    Eval (Value × Value) := do
  let (result, changed) ← applyFunction runner function ⟨item, [], [countValue index], 0⟩ place
  return (result, changed.getD item)

/-- Folds the items of an array, each with its place. -/
def foldItems (runner : Runner) (function : Value) (place : Position) :
    Value → List (Value × Nat) → Eval Value
  | result, [] => return result
  | result, (item, index) :: items => do
    let (result, _) ←
      applyFunction runner function ⟨item, [result], [countValue index], 1⟩ place
    foldItems runner function place result items

/-- The results of a function on pairs of items at the same places. -/
def zipItems (runner : Runner) (function : Value) (place : Position) :
    Nat → List Value → List Value → Eval (List Value)
  | index, a :: as, b :: bs => do
    let (result, _) ← applyFunction runner function ⟨none, [a, b], [countValue index], 0⟩ place
    return result :: (← zipItems runner function place (index + 1) as bs)
  | _, _, _ => return []

/-- The result of a function that compares two values, null if it fails. -/
def compared (runner : Runner) (function a b : Value) (place : Position) : Eval Value :=
  tryCatch
    (Prod.fst <$> applyFunction runner function ⟨none, [a, b], [], 0⟩ place)
    fun _ => return .null

def isInFront (runner : Runner) (function a b : Value) (place : Position) : Eval Bool := do
  match ← compared runner function a b place with
  | .whole order => return order < 0
  | .boolean first => return first
  | _ => return false

/-- Puts an item into sorted ones, of which the last one comes first: it goes past those that it is
in front of, up to one that it is not. -/
def insertItem (runner : Runner) (function : Value) (place : Position) (item : Value) :
    List Value → Eval (List Value)
  | [] => return [item]
  | last :: items => do
    if ← isInFront runner function item last place then
      return last :: (← insertItem runner function place item items)
    else return item :: last :: items

/-- The items of an array in the order that a function tells. -/
def sortItems (runner : Runner) (function : Value) (place : Position) (items : List Value) :
    Eval (List Value) :=
  List.reverse <$>
    items.foldlM (fun sorted item => insertItem runner function place item sorted) []

/-- The items of an array behind a kept one without those that a function finds equal to the one
kept in front of them. -/
def dropRepeats (runner : Runner) (function : Value) (place : Position) (kept : Value) :
    List Value → Eval (List Value)
  | [] => return []
  | item :: items => do
    if isTrue (← compared runner function kept item place) then
      dropRepeats runner function place kept items
    else return item :: (← dropRepeats runner function place item items)

/-- Functions of an array that ask a function for its items until one is found. -/
def search? (name : String) (start : Nat) (items : List Value) (visited : List (Value × Value)) :
    Option Value :=
  let last := visited.getLast?
  let found := last.filter fun entry => isTrue entry.1
  match name with
  | "find" => some ((found.map Prod.snd).getD .null)
  | "index_of" => some (placeValue (found.map fun _ => start + visited.length - 1))
  | "find_map" => some ((last.map Prod.fst).getD .null)
  | "some" => some (.boolean found.isSome)
  | "all" => some (.boolean (visited.length = items.length && visited.all (isTrue ·.1)))
  | _ => none

/-- Whether a result ends a search. -/
def endsSearch (name : String) (result : Value) : Bool :=
  match name with
  | "find_map" => !(result matches .null)
  | "all" => !isTrue result
  | _ => isTrue result

/-- Functions of an array that ask a function for all of its items: the result and the items
afterwards. -/
def sweep? (name : String) (visited : List (Value × Value)) : Option (Value × List Value) :=
  let items := visited.map Prod.snd
  let meeting := (visited.filter fun entry => isTrue entry.1).map Prod.snd
  let failing := (visited.filter fun entry => !isTrue entry.1).map Prod.snd
  match name with
  | "map" => some (.array (visited.map Prod.fst), items)
  | "filter" => some (.array meeting, items)
  | "for_each" => some (.null, items)
  | "drain" => some (.array meeting, failing)
  | "retain" => some (.array failing, meeting)
  | _ => none

/-- Functions of an array and a function. -/
def arrayApplication? (runner : Runner) (name : String) (items : List Value)
    (function : Value) (others : List Value) (place : Position) : Option (Eval (Value × Value)) :=
  let ask := askItem runner function place
  match name, others with
  | "map", [] | "filter", [] | "for_each", [] | "drain", [] | "retain", [] =>
    some do
      let visited ← visit ask (fun _ => false) 0 items
      let (result, items) := (sweep? name visited).getD (.null, items)
      return (result, .array items)
  | "some", [] | "all", [] | "find", [] | "find_map", [] | "index_of", []
  | "find", [.whole _] | "find_map", [.whole _] | "index_of", [.whole _] =>
    let start := match others with
      | [.whole start] => (Stretch.of items.length start.toInt 0).start
      | _ => 0
    some do
      let visited ← visit ask (endsSearch name) start (items.drop start)
      let result := (search? name start (items.drop start) visited).getD .null
      return (result, .array (Stretch.replace ⟨start, visited.length⟩ (visited.map Prod.snd) items))
  | "reduce", [] | "reduce", [_] =>
    some do
      let result ← foldItems runner function place (others.headD .null) items.zipIdx
      return (result, .array items)
  | "reduce_rev", [] | "reduce_rev", [_] =>
    some do
      let result ← foldItems runner function place (others.headD .null) items.zipIdx.reverse
      return (result, .array items)
  | "sort", [] | "sort_by", [] =>
    some do return (.null, .array (← sortItems runner function place items))
  | "order", [] | "order_by", [] =>
    some do return (.array (← sortItems runner function place items), .array items)
  | "dedup", [] =>
    some do
      match items with
      | [] => return (.null, .array [])
      | item :: items =>
        return (.null, .array (item :: (← dropRepeats runner function place item items)))
  | _, _ => none

/-- Functions of a map and a function, which takes a name and its value. -/
def mapApplication? (runner : Runner) (name : String) (members : List (String × Value))
    (function : Value) (place : Position) : Option (Eval (Value × Value)) :=
  if name = "filter" ∨ name = "drain" ∨ name = "retain" then
    some do
      let answers ← members.mapM fun (key, value) => do
        let (result, _) ← applyFunction runner function ⟨none, [.text key], [value], 0⟩ place
        return (isTrue result, key, value)
      let meeting := (answers.filter Prod.fst).map Prod.snd
      let failing := (answers.filter fun answer => !answer.1).map Prod.snd
      match name with
      | "filter" => return (.map meeting, .map members)
      | "drain" => return (.map meeting, .map failing)
      | _ => return (.map failing, .map meeting)
  else none

/-- Whether a text can be the name of a function. -/
def isFunctionName (name : String) : Bool :=
  isName name.toList && match wordToken name.toList with
    | .name _ => true
    | _ => false

/-- The functions of an array that take the name of a function as well. -/
def takesName (name : String) (others : List Value) : Bool :=
  match name, others with
  | "map", [] | "filter", [] | "some", [] | "all", [] | "dedup", [] | "sort", [] | "drain", []
  | "retain", [] | "index_of", [] | "index_of", [.whole _] | "reduce", [] | "reduce", [_]
  | "reduce_rev", [] | "reduce_rev", [_] => true
  | _, _ => false

/-- Calls a function that takes a function, if there is one of the name for the arguments. -/
def application? (runner : Runner) (name : String) (arguments : List Value) (place : Position) :
    Option (Eval (Value × Value)) :=
  let inCall := Option.map (calling (some name) place)
  match arguments with
  | [.array items, .array others, .function function held lambda] =>
    if name = "zip" then
      inCall (some do
        let results ← zipItems runner (.function function held lambda) place 0 items others
        return (.array results, .array items))
    else none
  | .array items :: .function function held lambda :: others =>
    inCall (arrayApplication? runner name items (.function function held lambda) others place)
  | .array items :: .text function :: others =>
    if takesName name others then
      if isFunctionName function then
        inCall (arrayApplication? runner name items (.function function [] none) others place)
      else some (failAt place (.badFunctionName function))
    else none
  | [.map members, .function function held lambda] =>
    inCall (mapApplication? runner name members (.function function held lambda) place)
  | _ => none

/-- Calls a function: its result, and its first argument afterwards. -/
def callFunction (runner : Runner) (name : String) (arguments : List Value) (place : Position) :
    Eval (Value × Value) :=
  match name, arguments with
  | "exit", [] => throw (.exit .null)
  | "exit", [value] => throw (.exit value)
  | "parse_json", [.text text] => (·, .text text) <$> runner.json text place
  | name, arguments =>
    match application? runner name arguments place with
    | some action => action
    | none =>
      match native? name arguments with
      | some change => located place change
      | none => failAt place (unknownFunction name arguments)

end RowRecipe.Expression
