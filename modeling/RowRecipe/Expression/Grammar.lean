import RowRecipe.Expression.Grammar.Statement

/-!
# The grammar of expressions

The readers of each level are made from the descent to the next one. An expression that needs more
levels than there are is too deep.
-/
namespace RowRecipe.Expression

/-- The readers of a level, given the descent to the next one. -/
def readersAbove (descend : Descent) : Readers where
  tree := readTree descend
  treeBelow place around := do
    let below ← descend place
    below.tree around
  operand := readOperand descend
  operators := readOperators descend
  member := readMember descend
  indexes := readIndexes descend
  block := readBlock descend
  choice := readChoice descend
  selection := readSelection descend
  statement := readStatement descend

/-- The readers of a level with so many levels below it. -/
def readers : Nat → Readers
  | 0 => readersAbove fun place => .error ⟨.tooDeep, place⟩
  | levels + 1 => readersAbove fun _ => .ok (readers levels)

/-- How many levels an expression may need. -/
def maxLevels : Nat := 64

def readAll {α : Type} (tokens : Tokens) (reader : Reader α) : Except SourceError α :=
  match reader.run ⟨tokens, [], []⟩ with
  | .error fault => .error fault
  | .ok (result, rest) =>
    match headToken rest.tokens with
    | (.finish, _) => .ok result
    | (token, place) => .error ⟨.unexpected token.display, place⟩

def Tree.parse (source : String) : Except SourceError Tree :=
  readAll (tokens source) ((readers maxLevels).tree .expression)

/-- The token of a map written as JSON that another token stands for. -/
def jsonToken : Token → Token
  | .reserved "null" => .unit
  | .symbol "\x7b" => .symbol "#\x7b"
  | .unit | .symbol "#\x7b" | .piece _ => .bad (.foreign "Invalid JSON syntax")
  | token => token

/-- Reads the text of a map written as JSON, whose parts may be any trees. -/
def Tree.parseJson (source : String) : Except SourceError Tree :=
  let tokens := (tokens source).map fun (token, place) => (jsonToken token, place)
  readAll tokens ((readers maxLevels).tree .json)

def parseScript (source : String) : Except SourceError (List Statement) := do
  let (statements, functions) ← readAll (tokens source) do
    let statements ←
      readScriptStatements ((readers maxLevels).statement .script) (← Reader.remaining)
    return (statements, (← get).functions)
  if functions.isEmpty then return statements
  else throw ⟨.badFunctionDefinition, .nowhere⟩

end RowRecipe.Expression
