import RowRecipe.Expression.Caught
import RowRecipe.Expression.Chain
import RowRecipe.Expression.Selection

/-!
# Evaluating expressions

A tree is evaluated against the values of its variables, which functions that change their first
argument may change on the way. The arguments and indexes of a chain are evaluated in front of its
base, and those of a function in front of its first argument if that is a variable. What runs the
functions and scripts inside an expression is a parameter: it is an evaluation with fewer calls
left.
-/
namespace RowRecipe.Expression

/-- The truth value of a tree that has a value. -/
def condition (tree : Tree) : Value → Eval Bool
  | .boolean value => return value
  | value => failAt tree.position (.wrongType value.fullTypeName "bool")

/-- How often a loop may go round. The library has no such bound: a loop that would go on longer
fails here. -/
def maxRounds : Nat := 1000000000000

/-- Goes round until a round has a value for the whole loop. -/
def goRound (position : Position) (round : Eval (Option Value)) : Nat → Eval Value
  | 0 => failAt position .tooManyRounds
  | rounds + 1 => do
    match ← round with
    | some value => return value
    | none => goRound position round rounds

/-- Goes through what has a place until one of its rounds has a value for the whole loop, which is
null if there is none. -/
def goThrough (position : Position) (item? : Nat → Option Value)
    (round : Nat → Value → Eval (Option Value)) : Nat → Nat → Eval Value
  | _, 0 => failAt position .tooManyRounds
  | place, rounds + 1 => do
    match item? place with
    | none => return .null
    | some item =>
      match ← round place item with
      | some value => return value
      | none => goThrough position item? round (place + 1) rounds

/-- A round of a loop, which may leave it with a value. -/
def oneRound (body : Eval Value) : Eval (Option Value) :=
  tryCatch (do let _ ← body; return none) fun
    | .leave value => return some value
    | .next => return none
    | halt => throw halt

/-- What is at each place of a container, if a loop can go through it. -/
def itemsOf? : Value → Option (Nat → Option Value)
  | .array items =>
    let items := items.toArray
    some fun place => items[place]?
  | .text text =>
    let cs := text.toList.toArray
    some fun place => cs[place]?.map .char
  | .bytes bytes =>
    let bytes := bytes.toArray
    some fun place => bytes[place]?.map fun byte => countValue byte.toNat
  | .range closed first last =>
    some fun place =>
      let value := first.toInt + place
      if value < last.toInt ∨ (closed ∧ value = last.toInt) then some (wholeValue value) else none
  | .series (.chars text) =>
    let cs := text.toArray
    some fun place => cs[place]?.map .char
  | .series (.bits value count) =>
    some fun place =>
      if place < count then some (.boolean (bitsOf value / Nat.pow 2 place % 2 == 1)) else none
  | .series (.wholes first last step) =>
    some fun place => (Series.wholeAt? first last step place).map .whole
  | .series (.floats first last step) =>
    some fun place => (Series.floatAt? first last step place).map .float
  | _ => none

/-- The functions of a few names that are no ordinary ones, if they have so many arguments. -/
def isKeyword (function : String) (count : Nat) : Bool :=
  match function, count with
  | "call", count | "curry", count => 0 < count
  | "Fn", 1 | "eval", 1 | "is_def_var", 1 | "is_def_fn", 2 | "is_def_fn", 3 => true
  | _, _ => false

def textArgument (tree : Tree) : Value → Eval String
  | .text value => return value
  | value => failAt tree.start (.wrongType value.fullTypeName "string")

def wholeArgument (tree : Tree) : Value → Eval Int64
  | .whole value => return value
  | value => failAt tree.start (.wrongType value.fullTypeName "i64")

/-- Calls a function that is no ordinary one. -/
def callKeyword (runner : Runner) (function : String) (trees : List Tree) (values : List Value)
    (place : Position) : Eval Value :=
  match function, trees, values with
  | "call", first :: _, value :: arguments =>
    match value with
    | .function .. => callValue runner value arguments place
    | value => failAt first.start (.wrongType value.typeName "Fn")
  | "curry", first :: _, value :: arguments =>
    match value with
    | .function name held lambda => return .function name (held ++ arguments) lambda
    | value => failAt first.start (.wrongType value.typeName "Fn")
  | "Fn", [tree], [value] => do
    let name ← textArgument tree value
    if isFunctionName name then return .function name [] none
    else failAt tree.start (.badFunctionName name)
  | "eval", [tree], [value] => do
    let text ← textArgument tree value
    runner.script text tree.start
  | "is_def_var", [tree], [value] => do
    let name ← textArgument tree value
    return .boolean ((← get).held? name).isSome
  | "is_def_fn", [tree, count], [value, number] => do
    let _ ← textArgument tree value
    let _ ← wholeArgument count number
    return .boolean false
  | "is_def_fn", [kind, tree, count], [type, value, number] => do
    let _ ← textArgument kind type
    let _ ← textArgument tree value
    let _ ← wholeArgument count number
    return .boolean false
  | name, _, values => failAt place (unknownFunction name values)

/-- Calls a function with what the function around it is a method of as its first argument, which it
may change. -/
def callWithThis (runner : Runner) (function : String) (at' : Position) (others : List Value)
    (place : Position) : Eval Value := do
  let first ← readThis at'
  let (result, changed) ← callFunction runner function (first :: others) place
  writeThis changed
  return result

/-- Calls a function with a variable as its first argument, which it may change unless that is
held by other functions. -/
def callWithVariable (runner : Runner) (function : String) (name : String) (at' : Position)
    (others : List Value) (place : Position) : Eval Value := do
  let held ← heldValue name at'
  let first := (← get).contents held
  let (result, changed) ← callFunction runner function (first :: others) place
  match held with
  | .shared _ => return result
  | _ =>
    if ← isFixed name then return result
    else
      writeVariable name changed
      return result

mutual

/-- The value of a tree. -/
def Tree.evaluate (runner : Runner) : Tree → Eval Value
  | .literal value _ => return .ofLiteral value
  | .variable name place => readVariable name place
  | .this place => readThis place
  | .member path _ place =>
    failAt (path.headD ("", place)).2 (.unknownModule (Text.join "::" (path.map Prod.fst)))
  | .spliced pieces _ => do
    let values ← evaluateAll runner pieces
    return textValue (values.flatMap Value.chars)
  | .array items _ => return .array (← evaluateAll runner items)
  | .map members _ => return .map (← evaluateMembers runner members)
  | .sign sign operand place => do
    let value ← operand.evaluate runner
    located place (applySign sign value)
  | .operation operator left right place => do
    let a ← left.evaluate runner
    let b ← right.evaluate runner
    located place (operate operator a b)
  | .connected connective operands _ => evaluateConnected runner connective operands
  | .within expected part (.variable name at') place => do
    let part ← part.evaluate runner
    let whole ← readVariable name at'
    let found ← located place (holds whole part)
    return .boolean (found == expected)
  | .within expected part container place => do
    let whole ← container.evaluate runner
    let part ← part.evaluate runner
    let found ← located place (holds whole part)
    return .boolean (found == expected)
  | .call [] "is_shared" [.variable name at'] _ _ => do
    return .boolean ((← heldValue name at') matches .shared _)
  | .call [] function (.variable name at' :: others) sees place => do
    if isKeyword function (others.length + 1) || sees then
      let first ← readVariable name at'
      let values ← evaluateAll runner others
      if isKeyword function (others.length + 1) then
        callKeyword runner function (.variable name at' :: others) (first :: values) place
      else
        Prod.fst <$> callFunction runner function (first :: values) place
    else
      callWithVariable runner function name at' (← evaluateAll runner others) place
  | .call [] function (.this at' :: others) false place => do
    let values ← evaluateAll runner others
    if isKeyword function (others.length + 1) then
      callKeyword runner function (.this at' :: others) ((← readThis at') :: values) place
    else callWithThis runner function at' values place
  | .call [] function arguments _ place => do
    let values ← evaluateAll runner arguments
    if isKeyword function arguments.length then
      callKeyword runner function arguments values place
    else Prod.fst <$> callFunction runner function values place
  | .call ((name, at') :: path) _ arguments _ _ => do
    let _ ← evaluateAll runner arguments
    failAt at' (.unknownModule (Text.join "::" (name :: path.map Prod.fst)))
  | .chain (.variable name at') first others => do
    let head ← first.ready runner
    let links ← readyAll runner others
    let value ← readVariable name at'
    let (result, changed) ← follow runner value (head :: links)
    if ← isFixed name then return result
    else
      writeVariable name changed
      return result
  | .chain (.this at') first others => do
    let head ← first.ready runner
    let links ← readyAll runner others
    let value ← readThis at'
    let (result, changed) ← follow runner value (head :: links)
    writeThis changed
    return result
  | .chain base first others => do
    let head ← first.ready runner
    let links ← readyAll runner others
    let value ← base.evaluate runner
    Prod.fst <$> follow runner value (head :: links)
  | .lambda parameters held body _ => do
    let cells ← held.mapM fun (name, at') => shareVariable name at'
    return .function "anon$" cells (some ⟨held.map Prod.fst ++ parameters, body⟩)
  | .statement inner _ => inner.evaluate runner

def evaluateAll (runner : Runner) : List Tree → Eval (List Value)
  | [] => return []
  | tree :: trees => do
    let value ← tree.evaluate runner
    return value :: (← evaluateAll runner trees)

def evaluateMembers (runner : Runner) : List (String × Tree) → Eval (List (String × Value))
  | [] => return []
  | (name, tree) :: members => do
    let value ← tree.evaluate runner
    return insertEntry name value (← evaluateMembers runner members)

/-- The value of a connective on operands. -/
def evaluateConnected (runner : Runner) (connective : Connective) : List Tree → Eval Value
  | [] =>
    return match connective with
      | .both => .boolean true
      | .either => .boolean false
      | .present => .null
  | tree :: trees => do
    let value ← tree.evaluate runner
    match connective with
    | .both =>
      if ← condition tree value then evaluateConnected runner connective trees
      else return .boolean false
    | .either =>
      if ← condition tree value then return .boolean true
      else evaluateConnected runner connective trees
    | .present =>
      match value with
      | .null => evaluateConnected runner connective trees
      | value => return value

def Link.ready (runner : Runner) : Link → Eval ReadyLink
  | .property name optional _ place => return .property name optional place
  | .method name arguments optional _ place => do
    let values ← evaluateAll runner arguments
    return .method name values ((arguments.head?.map Tree.start).getD .nowhere) optional place
  | .index inner optional mark => do
    let value ← inner.evaluate runner
    return .index value optional mark inner.start

def readyAll (runner : Runner) : List Link → Eval (List ReadyLink)
  | [] => return []
  | link :: links => do
    let ready ← link.ready runner
    return ready :: (← readyAll runner links)

def Statement.evaluate (runner : Runner) : Statement → Eval Value
  | .empty _ => return .null
  | .tree inner => inner.evaluate runner
  | .block statements _ => inBlock (evaluateStatements runner statements)
  | .choice guard body other _ => do
    if ← condition guard (← guard.evaluate runner) then body.evaluate runner
    else other.evaluate runner
  | .selection subject cases _ => do
    let value ← subject.evaluate runner
    let byRange := !meetsConstant value false cases
    match ← evaluateCases runner value byRange false cases with
    | some result => return result
    | none => evaluateDefault runner cases
  | .loop .guarded guard body position =>
    goRound position (do
      if ← condition guard (← guard.evaluate runner) then oneRound (body.evaluate runner)
      else return some .null) maxRounds
  | .loop (.asked goOn) guard body position =>
    goRound position (do
      match ← oneRound (body.evaluate runner) with
      | some value => return some value
      | none =>
        if (← condition guard (← guard.evaluate runner)) == goOn then return none
        else return some .null) maxRounds
  | .each name counter container body position => do
    match itemsOf? (← container.evaluate runner) with
    | none => failAt container.start .notIterable
    | some item? =>
      goThrough position item? (fun place value => inBlock do
        if let some counter := counter then declare false counter (countValue place)
        declare false name value
        oneRound (body.evaluate runner)) 0 maxRounds
  | .declaration constant name none _ => do
    declare constant name .null
    return .null
  | .declaration constant name (some tree) _ => do
    let value ← tree.evaluate runner
    declare constant name value
    return .null
  | .assignment operator target value place => do
    let new ← value.evaluate runner
    match target with
    | .variable name at' =>
      let old ← readVariable name at'
      if ← isFixed name then failAt at' (.constant name)
      else
        writeVariable name (← assigned operator old new place)
        return .null
    | .this at' =>
      let old ← readThis at'
      writeThis (← assigned operator old new place)
      return .null
    | .chain base first others =>
      let head ← first.ready runner
      let links ← readyAll runner others
      match base with
      | .variable name at' =>
        let old ← readVariable name at'
        if ← isFixed name then failAt at' (.constant name)
        else
          writeVariable name (← assignTo runner operator new place old (head :: links))
          return .null
      | .this at' =>
        let old ← readThis at'
        writeThis (← assignTo runner operator new place old (head :: links))
        return .null
      | _ => return .null
    | _ => return .null
  | .leave none _ => throw (.leave .null)
  | .leave (some tree) _ => do throw (.leave (← tree.evaluate runner))
  | .next _ => throw .next
  | .answer none _ => throw (.answer .null)
  | .answer (some tree) _ => do throw (.answer (← tree.evaluate runner))
  | .throwing none place => failAt place (.thrown "")
  | .throwing (some tree) place => do
    let value ← tree.evaluate runner
    throw (.failure (.at' place (.thrown (String.ofList (value.charsIn .exact)))) value)
  | .attempt body fault rescue _ =>
    tryCatch (body.evaluate runner) fun
      | .failure failure thrown =>
        if failure.isCatchable then inBlock do
          if let some name := fault then declare false name (failure.caught thrown)
          tryCatch (do let _ ← rescue.evaluate runner; return .null) fun halt =>
            throw (rethrown failure thrown halt)
        else throw (.failure failure thrown)
      | halt => throw halt
  | .importing path => do
    match ← path.evaluate runner with
    | .text name => failAt path.start (.unknownModule name)
    | value => failAt path.position (.wrongType value.fullTypeName "string")
  | .exporting name place => do
    let _ ← heldValue name place
    return .null

/-- Runs statements; gives the value of the last one. -/
def evaluateStatements (runner : Runner) : List Statement → Eval Value
  | [] => return .null
  | [statement] => statement.evaluate runner
  | statement :: statements => do
    let _ ← statement.evaluate runner
    evaluateStatements runner statements

/-- The value of the first case that a value meets and whose guard holds. -/
def evaluateCases (runner : Runner) (subject : Value) (byRange : Bool) :
    Bool → List Case → Eval (Option Value)
  | _, [] => return none
  | seen, .case patterns guard result :: cases => do
    let others := evaluateCases runner subject byRange (patterns.foldl isLong seen) cases
    if meetsAny subject byRange seen patterns then
      match guard with
      | none => some <$> result.evaluate runner
      | some guard =>
        if ← condition guard (← guard.evaluate runner) then some <$> result.evaluate runner
        else others
    else others

/-- The value of the case for all others. -/
def evaluateDefault (runner : Runner) : List Case → Eval Value
  | [] => return .null
  | .case [] _ result :: _ => result.evaluate runner
  | _ :: cases => evaluateDefault runner cases

end

/-- A computation that may have an answer. -/
def answering (action : Eval Value) : Eval Value :=
  tryCatch action fun
    | .answer value => return value
    | halt => throw halt

def runLambda (runner : Runner) (lambda : Lambda) (arguments : List Value) (this : Option Value)
    (place : Position) : Eval (Value × Option Value) :=
  let locals := (lambda.parameters.zip arguments).map fun (name, value) => ⟨name, false, value⟩
  calling none place
    (inFunction locals.reverse this (answering (lambda.body.evaluate runner)))

/-- Runs the text of a script among the variables of the expression. -/
def runScript (runner : Runner) (text : String) (place : Position) : Eval Value :=
  calling (some "eval") place
    (match parseScript (Text.trim text) with
      | .error fault => failAt fault.position (.syntaxFault fault.problem.message)
      | .ok statements => answering (evaluateStatements runner statements))

def readJson (runner : Runner) (text : String) (place : Position) : Eval Value :=
  match Tree.parseJson text with
  | .error fault => failAt fault.position (.syntaxFault fault.problem.message)
  | .ok tree => do
    match (← inFunction [] none (tree.evaluate runner)).1 with
    | .map members => return .map members
    | value => failAt place (.wrongResult value.typeName "map")

/-- What runs functions and scripts with so many calls left. -/
def runnerOf : Nat → Runner
  | 0 =>
    { lambda := fun _ _ _ place => failAt place .stackOverflow
      named := fun _ _ place => failAt place .stackOverflow
      script := fun _ place => failAt place .stackOverflow
      json := fun _ place => failAt place .stackOverflow }
  | calls + 1 =>
    let below := runnerOf calls
    { lambda := runLambda below
      named := callFunction below
      script := runScript below
      json := readJson below }

/-- How many calls may be inside one another. -/
def maxCalls : Nat := 64

def Tree.value (tree : Tree) (scope : Scope) : Except Failure Value :=
  match ((tree.evaluate (runnerOf maxCalls)).run (State.ofScope scope)).1 with
  | .ok value | .error (.answer value) | .error (.exit value) | .error (.leave value) => .ok value
  | .error (.failure failure _) => .error failure
  | .error .next => .ok .null

end RowRecipe.Expression
