import RowRecipe.Expression.Applying
import RowRecipe.Expression.Indexing

/-!
# Following chains

The links of a chain are followed one after another. What a method changes is put back into the
value that it was taken from, up to the value at the front.
-/
namespace RowRecipe.Expression

/-- A link whose arguments or index are evaluated. -/
inductive ReadyLink where
  | property (name : String) (optional : Bool) (place : Position)
  /-- A method, with the place of its first argument. -/
  | method (name : String) (arguments : List Value) (first : Position) (optional : Bool)
      (place : Position)
  /-- An index, with the place of its bracket and its own. -/
  | index (value : Value) (optional : Bool) (mark place : Position)

/-- Whether the links from an optional one on are passed over. -/
def ReadyLink.skips (link : ReadyLink) (value : Value) : Bool :=
  match value, link with
  | .null, .property _ optional _ | .null, .method _ _ _ optional _
  | .null, .index _ optional _ _ => optional
  | _, _ => false

/-- Runs a function without a name as a method of a value, if it takes so many arguments. -/
def runMethod (runner : Runner) (function : Value) (value : Value) (arguments : List Value)
    (place : Position) : Eval (Value × Value) :=
  match function with
  | .function name held (some lambda) =>
    if lambda.parameters.length = held.length + arguments.length then do
      let (result, changed) ← runner.lambda lambda (held ++ arguments) (some value) place
      return (result, changed.getD value)
    else failAt place (unknownFunction name (value :: held ++ arguments))
  | .function name held none => runner.named name (value :: held ++ arguments) place
  | other => failAt place (.wrongType other.typeName "Fn")

def callValue (runner : Runner) (function : Value) (arguments : List Value) (place : Position) :
    Eval Value :=
  match function with
  | .function name held (some lambda) =>
    if lambda.parameters.length = held.length + arguments.length then
      Prod.fst <$> runner.lambda lambda (held ++ arguments) none place
    else failAt place (unknownFunction name (held ++ arguments))
  | .function name held none => Prod.fst <$> runner.named name (held ++ arguments) place
  | other => failAt place (.wrongType other.typeName "Fn")

/-- Calls a method of a value; gives its result and the value afterwards. -/
def callMethod (runner : Runner) (name : String) (value : Value) (arguments : List Value)
    (first place : Position) : Eval (Value × Value) :=
  match name, value, arguments with
  | "call", .function function held lambda, arguments => do
    let result ← callValue runner (.function function held lambda) arguments place
    return (result, value)
  | "call", value, [] => failAt place (.wrongType value.typeName "Fn")
  | "call", value, .function function held lambda :: arguments =>
    runMethod runner (.function function held lambda) value arguments place
  | "call", _, other :: _ => failAt first (.wrongType other.typeName "Fn")
  | "curry", .function function held lambda, arguments =>
    return (.function function (held ++ arguments) lambda, value)
  | "curry", value, _ => failAt place (.wrongType value.typeName "Fn")
  | "is_shared", value, [] => return (.boolean false, value)
  | name, .map members, arguments =>
    match lookupEntry name members with
    | some (.function function held lambda) =>
      runMethod runner (.function function held lambda) (.map members) arguments place
    | _ => callFunction runner name (.map members :: arguments) place
  | name, value, arguments => callFunction runner name (value :: arguments) place

def readProperty (value : Value) (name : String) (place : Position) : Eval Value :=
  match value with
  | .map members => return (lookupEntry name members).getD .null
  | value => located place (property value name)

def readItem (value index : Value) (mark place : Position) : Eval Value :=
  match item value index with
  | .ok part => return part
  | .error fault => failAt (if fault.atIndex then place else mark) fault.cause

/-- A value with another one as its property, if it is a map that has it. -/
def withProperty (value : Value) (name : String) (part : Value) (grows : Bool) : Value :=
  match value with
  | .map members => withItem (.map members) (.text name) part grows
  | value => value

/-- Follows links from a value; gives the value at their end and the first one afterwards. -/
def follow (runner : Runner) (value : Value) : List ReadyLink → Eval (Value × Value)
  | [] => return (value, value)
  | link :: links => do
    if link.skips value then return (.null, value)
    else
      match link with
      | .property name _ place =>
        let part ← readProperty value name place
        let (result, part) ← follow runner part links
        return (result, withProperty value name part false)
      | .method name arguments first _ place =>
        let (part, changed) ← callMethod runner name value arguments first place
        let (result, _) ← follow runner part links
        return (result, changed)
      | .index index _ mark place =>
        let part ← readItem value index mark place
        let (result, part) ← follow runner part links
        return (result, withItem value index part false)

/-- The value that an assignment to what has a value gives it. -/
def assigned (operator : Option Operator) (old new : Value) (place : Position) : Eval Value :=
  match operator with
  | some operator => located place (operate operator old new)
  | none => return new

/-- A value with another part at an index, which must be of the type of the parts there. -/
def withPart (value index part : Value) (place : Position) : Eval Value :=
  match partType? value index with
  | some type =>
    if part.typeName = type then return withItem value index part true
    else failAt place (.wrongType part.fullTypeName type)
  | none => return withItem value index part true

/-- Assigns to what a link leads to from a value; gives the value afterwards. -/
def assignLast (operator : Option Operator) (new : Value) (place : Position) (value : Value)
    (link : ReadyLink) : Eval Value :=
  match value, link with
  | .map members, .property name _ _ => do
    let part ← assigned operator ((lookupEntry name members).getD .null) new place
    return withProperty (.map members) name part true
  | value, .property name _ at' => do
    let part ← match operator with
      | none => pure new
      | some _ => do assigned operator (← readProperty value name at') new place
    failAt at' (.fixedProperty name value.typeName part.typeName)
  | value, .index index _ mark at' =>
    match item value index with
    | .ok old => do withPart value index (← assigned operator old new place) place
    | .error ⟨.noIndexer type index _, _⟩ =>
      failAt mark (.noIndexer type index (some new.typeName))
    | .error fault => failAt (if fault.atIndex then at' else mark) fault.cause
  | value, .method .. => return value

/-- Assigns to what the last one of some links leads to from a value; gives the value afterwards. -/
def assignTo (runner : Runner) (operator : Option Operator) (new : Value) (place : Position)
    (value : Value) : List ReadyLink → Eval Value
  | [] => assigned operator value new place
  | link :: links => do
    if link.skips value then return value
    else if links.isEmpty then assignLast operator new place value link
    else
      match link with
      | .property name _ at' =>
        let part ← readProperty value name at'
        let part ← assignTo runner operator new place part links
        return withProperty value name part false
      | .method name arguments first _ at' =>
        let (part, changed) ← callMethod runner name value arguments first at'
        let _ ← assignTo runner operator new place part links
        return changed
      | .index index _ mark at' =>
        let part ← readItem value index mark at'
        let part ← assignTo runner operator new place part links
        return withItem value index part false

end RowRecipe.Expression
