import RowRecipe.Expression.Grammar.Operand

/-!
# Reading trees and statements

Operators are read by how tightly they bind, each one taking a level. Where blocks hold a single
expression, a choice or a selection is as much an expression as a sum.
-/
namespace RowRecipe.Expression

open Reader

/-- The operator that comes next, if any; a reserved symbol is none that is known. -/
def nextInfix (around : Surroundings) : Reader (Option Infix) := do
  match ← peek with
  | (.reserved text, place) =>
    if isReservedWord text then return none else fail place (.unknownOperator text)
  | (.symbol text, _) =>
    if around.barsPart && text == "|" then return none else return Infix.ofSymbol? text
  | _ => return none

/-- Whether the next operator takes a right operand away from an operator in front of it. -/
def takesOver (op : Infix) : Option Infix → Bool
  | none => false
  | some next => op.level < next.level || (op.level == next.level && op.bindsRight)

/-- Whether an operator leaves its left operand to one of a level in front of it. -/
def leavesTo (level : Nat) (op : Infix) : Bool :=
  op.level < level || (op.level == level && !op.bindsRight)

/-- Whether an operator may be without a right operand in front of a token. -/
def endsRange (op : Infix) (token : Token) : Bool :=
  (op == .operator .rangeTo || op == .operator .rangeThrough)
    && match token with
      | .symbol text => [")", "]", "\x7d", ",", ";", "=>"].contains text
      | _ => false

/-- Reads operators behind an operand, with their right operands. -/
def readOperators (descend : Descent) (around : Surroundings) (level : Nat) (place : Position)
    (left : Tree) : Reader Tree := do
  match ← nextInfix around with
  | none => return left
  | some op =>
    if leavesTo level op then return left
    else
      let (_, mark) ← next
      let (token, behind) ← peek
      let right ←
        if endsRange op token then pure (.literal .null behind) else readOperand descend around
      let following ← nextInfix around
      let right ←
        if takesOver op following then
          let below ← descend place
          below.operators around op.level right.position right
        else pure right
      let below ← descend place
      below.operators around level mark (← Tree.join op left right mark)

def readTree (descend : Descent) (around : Surroundings) : Reader Tree := do
  let (_, place) ← peek
  let below ← descend place
  let left ← below.operand around
  below.operators around 0 left.position left

/-- The operator of an assignment, if a token begins one. -/
def assignment? : Token → Option (Option Operator)
  | .symbol "=" => some none
  | .symbol "+=" => some (some .add)
  | .symbol "-=" => some (some .subtract)
  | .symbol "*=" => some (some .multiply)
  | .symbol "/=" => some (some .divide)
  | .symbol "%=" => some (some .modulo)
  | .symbol "**=" => some (some .power)
  | .symbol "<<=" => some (some .shiftLeft)
  | .symbol ">>=" => some (some .shiftRight)
  | .symbol "&=" => some (some .bitAnd)
  | .symbol "|=" => some (some .bitOr)
  | .symbol "^=" => some (some .bitXor)
  | _ => none

/-- Fails if a tree cannot be assigned to where some variables are declared. -/
def checkTarget (declared : List Declared) (operator : Option Operator) (target : Tree)
    (mark : Position) : Except SourceError Unit :=
  let faulty := fun place => .error ⟨.notAssignable, place⟩
  match target with
  | .this _ => .ok ()
  | .variable name place =>
    if (declared.find? fun entry => entry.name == name).any Declared.constant then
      .error ⟨.constantTarget name, place⟩
    else .ok ()
  | .chain base first others =>
    match (first :: others).find? fun link => link matches .method .. with
    | some link =>
      faulty (match link with
        | .method _ _ _ _ place => place
        | _ => first.mark)
    | none =>
      match base with
      | .this _ | .variable .. => .ok ()
      | base => faulty base.position
  | .connected .. =>
    if operator = none then .error ⟨.likelyTypo, mark⟩ else faulty target.position
  | target =>
    if target.isConstant then .error ⟨.constantTarget "", target.start⟩
    else faulty target.position

def readTreeStatement (descend : Descent) (around : Surroundings) : Reader Statement := do
  let (_, place) ← peek
  let below ← descend place
  let tree ← below.tree around
  let (token, mark) ← peek
  match assignment? token with
  | none => return .tree tree
  | some operator =>
    advance
    let value ← below.tree around
    checkTarget (← get).declared operator tree mark
    return .assignment operator tree value mark

/-- Reads a truth value that decides. -/
def readGuard (below : Readers) (around : Surroundings) : Reader Tree := do
  match ← peek with
  | (.symbol "\x7b", place) => fail place (.notTree "a boolean")
  | _ => pure ()
  let guard ← below.tree around
  guard.checkBoolean
  match ← peek with
  | (.symbol "=", place) => fail place .likelyTypo
  | _ => return guard

/-- Whether a statement needs no semicolon behind it. -/
def Statement.endsItself : Statement → Bool
  | .block .. | .choice .. | .selection .. | .loop .guarded .. | .each .. | .attempt .. => true
  | _ => false

/-- Passes what parts a statement from the next one. -/
def passEnd (statement : Statement) : Reader Unit := do
  if statement.endsItself then return
  else
    match ← peek with
    | (.symbol ";", _) => advance
    | (.symbol "\x7d", _) | (.finish, _) => return
    | found => failMissing found ";" "to terminate this statement"

/-- Reads statements up to a closing brace, of which there are at most so many. -/
def readBlockStatements (statement : Reader Statement) : Nat → Reader (List Statement)
  | 0 => return []
  | count + 1 => do
    match ← peek with
    | (.symbol "\x7d", _) =>
      advance
      return []
    | (.finish, place) => fail place (.missing "\x7d" "to terminate this block")
    | _ =>
      match ← statement with
      | .empty _ => readBlockStatements statement count
      | read =>
        passEnd read
        return read :: (← readBlockStatements statement count)

/-- Reads a block in braces. -/
def readBlock (descend : Descent) (around : Surroundings) : Reader Statement := do
  let purpose := "to start a statement block"
  let found ← next
  if found.1 ≠ .symbol "\x7b" then failMissing found "\x7b" purpose
  else if around.singleBlocks then
    let statement ← readTreeStatement descend around
    let found ← next
    if found.1 = .symbol "\x7d" then return .block [statement] found.2
    else failMissing found "\x7b" purpose
  else
    let below ← descend found.2
    let statements ←
      withinBlock (readBlockStatements (below.statement around.ofBlock) (← remaining))
    return .block statements found.2

def readChoice (descend : Descent) (around : Surroundings) : Reader Statement := do
  let (_, place) ← peek
  let below ← descend place
  advance
  let guard ← readGuard below around
  let body ← below.block around
  if ← tryPass "else" then
    if ← seesSymbol "if" then return .choice guard body (← below.choice around) place
    else return .choice guard body (← below.block around) place
  else return .choice guard body (.empty .nowhere) place

/-- Reads the values of a case parted by bars, of which there are at most so many. Whatever is wrong
with one of them, it is no literal. -/
def readPatterns (tree : Reader Tree) : Nat → Reader (List Tree)
  | 0 => return []
  | count + 1 => do
    let first ← tryCatch tree fun fault => fail fault.position (.notTree "literal")
    if ← tryPass "|" then return first :: (← readPatterns tree count)
    else return [first]

/-- The values of cases so far: the place of the case for all others, and whether a range that does
not stand for its numbers is among them. -/
structure CasesRead where
  default : Option Position
  hasRange : Bool

/-- How many whole numbers are in a range between constants. -/
def Tree.rangeSize : Tree → Nat
  | .operation operator (.literal first _) (.literal last _) _ =>
    let lower := match first with
      | .whole value => value.toInt
      | _ => 0
    let upper := match last with
      | .whole value => value.toInt
      | _ => maxWhole
    (upper - lower + if operator == .rangeThrough then 1 else 0).toNat
  | _ => 0

/-- How many numbers a range has that stands for each of them by itself. -/
def shortRange : Nat := 16

/-- Fails if a value cannot be that of a case; says whether there is a range that does not stand for
its numbers. -/
def checkPattern (hasRange : Bool) (pattern : Tree) : Except SourceError Bool :=
  if !pattern.isConstant then .error ⟨.notTree "a literal", pattern.start⟩
  else
    match pattern with
    | .literal (.whole _) _ =>
      if hasRange then .error ⟨.lateNumber, pattern.start⟩ else .ok false
    | pattern => .ok (hasRange || shortRange < pattern.rangeSize)

/-- Reads the values that a case is for, and its guard; none of them stand for all. -/
def readCaseHead (below : Readers) (around : Surroundings) (read : CasesRead) :
    Reader (List Tree × Option Tree × CasesRead) := do
  match ← peek, read.default with
  | (.symbol "_", place), none =>
    advance
    let (token, at') ← peek
    if token = .symbol "if" then fail at' .guardedDefault
    else return ([], none, { read with default := some place })
  | _, some place => fail place .defaultNotLast
  | _, none =>
    let patterns ← readPatterns (below.tree { around with barsPart := true }) (← remaining)
    if ← tryPass "if" then return (patterns, some (← readGuard below around), read)
    else return (patterns, none, read)

/-- Reads the cases of a selection up to the closing brace, of which there are at most so many. -/
def readCases (below : Readers) (around : Surroundings) : Nat → CasesRead → Reader (List Case)
  | 0, _ => return []
  | count + 1, read => do
    let closing := "to end this switch block"
    match ← peek with
    | (.symbol "\x7d", _) =>
      advance
      return []
    | (.finish, place) => fail place (.missing "\x7d" closing)
    | _ =>
      let (patterns, guard, read) ← readCaseHead below around read
      passSymbol "=>" "in this switch case"
      let result ←
        if around.singleBlocks then Statement.tree <$> below.tree around
        else below.statement around
      let hasRange ← patterns.foldlM
        (fun hasRange pattern => liftM (checkPattern hasRange pattern)) read.hasRange
      let read := { read with hasRange := hasRange }
      match ← peek with
      | (.symbol ",", _) => advance
      | (.symbol "\x7d", _) => pure ()
      | (.finish, place) => fail place (.missing ")" closing)
      | found =>
        if result.endsItself then pure ()
        else failMissing found "," "to separate the items in this switch block"
      return .case patterns guard result :: (← readCases below around count read)

def readSelection (descend : Descent) (around : Surroundings) : Reader Statement := do
  let (_, place) ← peek
  let below ← descend place
  advance
  let subject ← below.tree around
  passSymbol "\x7b" "to start a switch block"
  let cases ← readCases below around (← remaining) ⟨none, false⟩
  return .selection subject cases place

def readLoop (descend : Descent) (around : Surroundings) : Reader Statement := do
  let (token, place) ← peek
  let below ← descend place
  advance
  let guard ←
    if token = .symbol "while" then readGuard below around
    else pure (.literal (.boolean true) .nowhere)
  return .loop .guarded guard (← below.block around.ofLoop) place

def readAskedLoop (descend : Descent) (around : Surroundings) : Reader Statement := do
  let (_, place) ← peek
  let below ← descend place
  advance
  let body ← below.block around.ofLoop
  let (token, at') ← next
  if token = .symbol "while" || token = .symbol "until" then
    let guard ← readGuard below around
    return .loop (.asked (token == .symbol "while")) guard body place
  else fail at' (.missing "while" "for the do statement")

def readEach (descend : Descent) (around : Surroundings) : Reader Statement := do
  let (_, place) ← peek
  let below ← descend place
  advance
  let (item, counter) ←
    if ← tryPass "(" then
      let (item, _) ← passName
      passSymbol "," "after the iteration variable name"
      let (counter, at') ← passName
      if counter = item then fail at' (.duplicateVariable counter)
      passSymbol ")" "to close the iteration variable"
      pure (item, some counter)
    else
      let (item, _) ← passName
      pure (item, none)
  passSymbol "in" "after the iteration variable"
  match ← peek with
  | (.symbol "\x7b", at') => fail at' (.notTree "a boolean")
  | _ => pure ()
  let container ← below.tree around
  let body ← withinBlock do
    counter.forM (note false)
    note false item
    below.block around.ofLoop
  return .each item counter container body place

def readDeclaration (descend : Descent) (around : Surroundings) : Reader Statement := do
  let (token, place) ← peek
  let below ← descend place
  advance
  let (name, at') ← passName
  let value ← if ← tryPass "=" then some <$> below.tree around else pure none
  note (token == .symbol "const") name
  return .declaration (token == .symbol "const") name value at'

def readAttempt (descend : Descent) (around : Surroundings) : Reader Statement := do
  let (_, place) ← peek
  let below ← descend place
  advance
  let body ← below.block around
  passSymbol "catch" "for the 'try' statement"
  let fault ←
    if ← tryPass "(" then
      let (name, _) ← passName
      passSymbol ")" "to enclose the catch variable"
      pure (some name)
    else pure none
  let rescue ← withinBlock do
    fault.forM (note false)
    below.block around
  return .attempt body fault rescue place

/-- Passes the name of a function, in front of which the type of what it is a method of may
stand. -/
def passFunctionName : Reader String := do
  let (token, place) ← next
  let typed ← match token with
    | .name _ => tryPass "."
    | .text _ => do
      let (_, place) ← peek
      if ← tryPass "." then pure true
      else fail place (.missing "." "after the type name for 'this'")
    | _ => pure false
  let (token, place) ← if typed then next else pure (token, place)
  match token with
  | .name name => return name
  | .reserved text => fail place (.reserved text)
  | _ => fail place .noFunctionName

/-- Reads the definition of a function with a name. -/
def readFunction (descend : Descent) (around : Surroundings) : Reader Statement := do
  let (token, _) ← peek
  if token = .symbol "private" then advance
  let (token, place) ← next
  if token ≠ .symbol "fn" then fail place (.missing "fn" "following 'private'")
  let name ← passFunctionName
  let parameters ← match ← next with
    | (.unit, _) => pure []
    | (.symbol "(", _) =>
      readParameters ")" name ("to separate the parameters of function '" ++ name ++ "'")
        (← remaining) []
    | (_, place) => fail place (.noParameters name)
  let (token, at') ← peek
  if token ≠ .symbol "\x7b" then fail at' (.noBody name)
  let below ← descend place
  let _ ← withinFunction parameters (below.block around.ofBody)
  if (name, parameters.length) ∈ (← get).functions then
    fail place (.duplicateFunction name parameters.length)
  noteFunction name parameters.length
  return .empty place

/-- Reads the name behind a keyword that may stand in front of another name. -/
def passAlias : Reader Unit := do
  if ← tryPass "as" then
    let _ ← passName

/-- Reads a statement that looks up a module. -/
def readImport (descend : Descent) (around : Surroundings) : Reader Statement := do
  let (_, place) ← peek
  let below ← descend place
  advance
  let path ← below.tree around
  passAlias
  return .importing path

/-- Reads a statement that gives a variable away. -/
def readExport (descend : Descent) (around : Surroundings) : Reader Statement := do
  let (_, place) ← peek
  if !around.outermost then fail place .exportInside
  advance
  match ← peek with
  | (.symbol "let", _) | (.symbol "const", _) => readDeclaration descend around
  | _ =>
    let (name, at') ← passName
    passAlias
    return .exporting name at'

/-- Reads the value that a statement may have in front of its end. -/
def readValue? (descend : Descent) (around : Surroundings) : Reader (Option Tree) := do
  match ← peek with
  | (.finish, _) | (.symbol ";", _) => return none
  | (.symbol "\x7d", place) =>
    if around.outermost then fail place (.unexpected "\x7d") else return none
  | (_, place) =>
    let below ← descend place
    return some (← below.tree around)

def readStatement (descend : Descent) (around : Surroundings) : Reader Statement := do
  let (token, place) ← peek
  match token with
  | .finish => return .empty place
  | .symbol ";" =>
    advance
    return .empty place
  | .symbol "\x7b" =>
    let below ← descend place
    below.block around
  | .symbol "if" =>
    let below ← descend place
    below.choice around
  | .symbol "switch" =>
    let below ← descend place
    below.selection around
  | .symbol "while" | .symbol "loop" => readLoop descend around
  | .symbol "do" => readAskedLoop descend around
  | .symbol "for" => readEach descend around
  | .symbol "let" | .symbol "const" => readDeclaration descend around
  | .symbol "try" => readAttempt descend around
  | .symbol "fn" | .symbol "private" =>
    if around.outermost then readFunction descend around else fail place .badFunctionDefinition
  | .symbol "import" => readImport descend around
  | .symbol "export" => readExport descend around
  | .symbol "continue" =>
    if around.inLoop then
      advance
      return .next place
    else fail place .leavesNoLoop
  | .symbol "break" =>
    if around.inLoop then
      advance
      return .leave (← readValue? descend { around with outermost := false }) place
    else fail place .leavesNoLoop
  | .symbol "return" =>
    advance
    return .answer (← readValue? descend around) place
  | .symbol "throw" =>
    advance
    return .throwing (← readValue? descend around) place
  | _ => readTreeStatement descend around

/-- Reads the statements of a script, of which there are at most so many. -/
def readScriptStatements (statement : Reader Statement) : Nat → Reader (List Statement)
  | 0 => return []
  | count + 1 => do
    match ← peek with
    | (.finish, _) => return []
    | _ =>
      match ← statement with
      | .empty _ => readScriptStatements statement count
      | read =>
        if read.endsItself then pure ()
        else
          match ← peek with
          | (.symbol ";", _) => advance
          | (.finish, _) => pure ()
          | found => failMissing found ";" "to terminate this statement"
        return read :: (← readScriptStatements statement count)

end RowRecipe.Expression
