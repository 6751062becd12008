import RowRecipe.Expression.Grammar.Basic

/-!
# Reading operands

An operand is a literal, a name, a call, or something in brackets, and then the chain of what is
taken from it. Literals of arrays and maps, arguments and indexes hold trees of lower levels.
-/
namespace RowRecipe.Expression

open Reader

def closingCall (function : String) : String :=
  "to close the arguments list of this function call '" ++ function ++ "'"

def partingCall (function : String) : String :=
  "to separate the arguments to function call '" ++ function ++ "'"

def closingMap : String := "to end this object map literal"

def partingMap : String := "to separate the items of this object map literal"

def literal? : Token → Option Literal
  | .whole value => some (.whole value)
  | .float value => some (.float value)
  | .text value => some (.text value)
  | .char value => some (.char value)
  | .boolean value => some (.boolean value)
  | .unit => some .null
  | _ => none

/-- What goes wrong with a token where an operand should be. -/
def badOperand (token : Token) : Problem :=
  match token with
  | .finish => .incomplete
  | .bad fault => .lexical fault
  | .reserved "this" => .outsideFunction "this"
  | .reserved text => .reserved text
  | token => .unexpected token.display

/-- Reads arguments up to the closing parenthesis, of which there are at most so many. -/
def readArguments (name : String) (item : Reader Tree) : Nat → Reader (List Tree)
  | 0 => do
    let (_, place) ← peek
    fail place .incomplete
  | count + 1 => do
    if ← tryPass ")" then return []
    else
      let first ← item
      match ← peek with
      | (.symbol ")", _) =>
        advance
        return [first]
      | (.symbol ",", _) =>
        advance
        return first :: (← readArguments name item count)
      | (.finish, place) => fail place (.missing ")" (closingCall name))
      | found => failMissing found "," (partingCall name)

/-- Reads the arguments of a call of a name at a place. -/
def readCall (descend : Descent) (around : Surroundings) (name : String) (place : Position) :
    Reader (List Tree) := do
  match ← next with
  | (.unit, _) => return []
  | _ =>
    match ← peek with
    | (.finish, place) => fail place (.missing ")" (closingCall name))
    | (.bad fault, place) => fail place (.lexical fault)
    | (.symbol ")", _) =>
      advance
      return []
    | _ =>
      let below ← descend place
      readArguments name (below.tree around) (← remaining)

/-- Reads the members of a map up to its end, of which there are at most so many; the names are
those in front, and may have to stand in quotes. -/
def readMembers (quoted : Bool) (value : Reader Tree) :
    Nat → List String → Reader (List (String × Tree))
  | 0, _ => do
    let (_, place) ← peek
    fail place .incomplete
  | count + 1, names => do
    match ← next with
    | (.symbol "\x7d", _) => return []
    | found@(.name name, place) | found@(.text name, place) =>
      if quoted && found.1 matches .name _ then fail place .noProperty
      else if name ∈ names then fail place (.duplicateProperty name)
      else
        passSymbol ":" ("to follow the property '" ++ name ++ "' in this object map literal")
        let tree ← value
        match ← peek with
        | (.symbol "\x7d", _) =>
          advance
          return [(name, tree)]
        | (.symbol ",", _) =>
          advance
          return (name, tree) :: (← readMembers quoted value count (name :: names))
        | (.name _, place) => fail place (.missing "," partingMap)
        | found => failMissing found "\x7d" closingMap
    | (.piece _, place) => fail place .noProperty
    | (.bad fault, place) => fail place (.lexical fault)
    | (.finish, place) => fail place (.missing "\x7d" closingMap)
    | (token, place) =>
      match token with
      | .reserved text =>
        if isReservedWord text then fail place (.reserved text)
        else if names = [] then fail place (.missing "\x7d" closingMap)
        else fail place .noProperty
      | _ =>
        if names = [] then fail place (.missing "\x7d" closingMap)
        else fail place .noProperty

/-- Reads the rest of a text that holds trees, of whose pieces there are at most so many. -/
def readPieces (block : Reader Statement) : Nat → Reader (List Tree)
  | 0 => do
    let (_, place) ← peek
    fail place .incomplete
  | count + 1 => do
    let (_, place) ← peek
    let held ← block
    let part := Tree.statement held place
    match ← next with
    | (.text value, place) =>
      if value = "" then return [part]
      else return [part, .literal (.text value) place]
    | (.piece value, place) =>
      let rest ← readPieces block count
      if value = "" then return part :: rest
      else return part :: .literal (.text value) place :: rest
    | (token, place) => fail place (badOperand token)

/-- Reads the parameters of a function up to a closing symbol, of which there are at most so many;
the names are those in front. -/
def readParameters (close function parting : String) :
    Nat → List String → Reader (List String)
  | 0, _ => do
    let (_, place) ← peek
    fail place .incomplete
  | count + 1, names => do
    if ← tryPass close then return names
    else
      let (name, place) ← passName
      if name ∈ names then fail place (.duplicateParameter name function)
      else
        match ← next with
        | (.symbol ",", _) => readParameters close function parting count (names ++ [name])
        | found =>
          if found.1 = .symbol close then return names ++ [name] else failMissing found "," parting

/-- Reads the links of a chain, of which there are at most so many, behind its base if that is
given. -/
def readLinks (descend : Descent) (around : Surroundings) :
    Nat → Option Tree → Reader (List Link)
  | 0, _ => return []
  | count + 1, base => do
    let (token, mark) ← peek
    if token = .symbol "[" || token = .symbol "?[" then
      advance
      let below ← descend mark
      let links ← below.indexes around base (token == .symbol "?[") mark
      return links ++ (← readLinks descend around count none)
    else if token = .symbol "." || token = .symbol "?." then
      advance
      match ← peek with
      | (.name _, _) => pure ()
      | (.reserved text, place) =>
        if reserveOf text = .method then pure () else fail place (.reserved text)
      | (_, place) => fail place .noProperty
      let below ← descend mark
      below.member around (token == .symbol "?.") mark
    else return []

/-- Reads the index behind an opening bracket, and the brackets behind it. -/
def readIndexes (descend : Descent) (around : Surroundings) (base : Option Tree)
    (optional : Bool) (mark : Position) : Reader (List Link) := do
  let below ← descend mark
  let index ← below.tree around
  match base.bind (·.badIndex? index) with
  | some reason => fail index.start (.badIndex reason)
  | none => pure ()
  match ← peek with
  | (.symbol "]", _) => advance
  | found => failMissing found "]" "for a matching [ in this index expression"
  let (token, place) ← peek
  if token = .symbol "[" || token = .symbol "?[" then
    advance
    let below ← descend place
    let links ← below.indexes around none (token == .symbol "?[") place
    return .index index optional mark :: links
  else return [.index index optional mark]

/-- Passes an exclamation mark behind the name of a function, if there is one. -/
def passSees : Reader Bool := do
  if ← tryPass "!" then
    if ← seesArguments then return true
    else
      let (_, place) ← peek
      fail place (.missing "(" "to start arguments list of function call")
  else return false

/-- Reads a property or a method, and the links behind it. -/
def readMember (descend : Descent) (around : Surroundings) (optional : Bool) (mark : Position) :
    Reader (List Link) := do
  match ← next with
  | (.name name, place) | (.reserved name, place) =>
    let sees ← passSees
    if ← seesArguments then
      let arguments ← readCall descend around name place
      let links ← readLinks descend around (← remaining) none
      if sees && links.isEmpty then fail place .badCapture
      else return .method name arguments optional mark place :: links
    else
      let (token, at') ← peek
      if reserveOf name = .method ∧ name ∈ reservedWords.map Prod.fst then
        fail place (.reserved name)
      else if token = .symbol "::" then fail at' (.badSymbol "::")
      else
        let links ← readLinks descend around (← remaining) none
        return .property name optional mark place :: links
  | (_, place) => fail place .noProperty

/-- Reads the names of modules behind a name, of which there are at most so many, the last name
being the one that is meant. -/
def readPath : Nat → List Placed → String → Position → Reader (List Placed × String × Position)
  | 0, path, name, place => return (path, name, place)
  | count + 1, path, name, place => do
    if ← tryPass "::" then
      let (inner, at') ← passName
      readPath count (path ++ [(name, place)]) inner at'
    else return (path, name, place)

/-- Reads what a name begins: a variable or a call. -/
def readNamed (descend : Descent) (around : Surroundings) (name : String) (place : Position) :
    Reader Tree := do
  let (path, name, place) ← readPath (← remaining) [] name place
  let (token, at') ← peek
  if path ≠ [] ∧ token = .symbol "!" then
    advance
    if ← seesArguments then fail at' (.unexpected "!") else fail at' .moduleCall
  else
    let sees ← passSees
    if ← seesArguments then
      return .call path name (← readCall descend around name place) sees place
    else if path = [] then return .variable name place
    else return .member path name place

def readLambda (descend : Descent) (around : Surroundings) (place : Position) : Reader Tree := do
  let below ← descend place
  let parameters ←
    if ← tryPass "||" then pure []
    else
      advance
      readParameters "|" "" "to separate the parameters of anonymous function" (← remaining) []
  let body ← withinFunction parameters (below.statement around.ofBody)
  noteFunction "" parameters.length
  return .lambda parameters (heldBy parameters body) body place

def readBase (descend : Descent) (around : Surroundings) : Reader Tree := do
  let (token, place) ← peek
  match token with
  | .symbol "(" =>
    let below ← descend place
    advance
    let tree ← below.tree around
    passSymbol ")" "for a matching ( in this expression"
    return tree
  | .symbol "[" =>
    let below ← descend place
    advance
    let item := below.treeBelow place around
    let trees ← items "]" "to end this array literal"
      "to separate the items of this array literal" item (← remaining)
    return .array trees place
  | .symbol "#\x7b" =>
    let below ← descend place
    advance
    let members ←
      readMembers around.namesQuoted (below.treeBelow place around) (← remaining) []
    return .map members place
  | .symbol "if" =>
    let below ← descend place
    return .statement (← below.choice around) place
  | .symbol "switch" =>
    let below ← descend place
    return .statement (← below.selection around) place
  | .symbol "|" | .symbol "||" => readLambda descend around place
  | .piece value =>
    let below ← descend place
    advance
    let pieces ← readPieces (below.block around) (← remaining)
    let first := if value = "" then [] else [Tree.literal (.text value) place]
    return .spliced (first ++ pieces) place
  | .name name =>
    advance
    readNamed descend around name place
  | .reserved name =>
    advance
    let (token, _) ← peek
    let called := token = .symbol "(" || token = .symbol "!" || token = .unit
    if called && reserveOf name != .unused then readNamed descend around name place
    else if name = "this" && around.inFunction then return .this place
    else fail place (badOperand (.reserved name))
  | token =>
    match literal? token with
    | some value =>
      advance
      return .literal value place
    | none =>
      let isBlock := match token with
        | .symbol word => ["\x7b", "while", "loop", "do", "for"].contains word
        | _ => false
      if isBlock && around.blockOperands then
        let below ← descend place
        return .statement (← below.statement around) place
      else fail place (badOperand token)

def readPrimary (descend : Descent) (around : Surroundings) : Reader Tree := do
  let base ← readBase descend around
  return base.attach (Link.settled (← readLinks descend around (← remaining) (some base)))

/-- The sign that a token is in front of an operand. -/
def sign? : Token → Option Sign
  | .symbol "-" => some .minus
  | .symbol "+" => some .plus
  | .symbol "!" => some .not
  | _ => none

/-- Reads an operand with its signs. In front of a range an operand may be missing, which is zero
then. -/
def readOperand (descend : Descent) (around : Surroundings) : Reader Tree := do
  let (token, place) ← peek
  match sign? token with
  | some sign =>
    advance
    let below ← descend place
    return Tree.signed sign (← below.operand around) place
  | none =>
    if token = .symbol ".." || token = .symbol "..=" then return .literal (.whole 0) place
    else readPrimary descend around

end RowRecipe.Expression
