import RowRecipe.Expression.Capture
import RowRecipe.Expression.Passing
import RowRecipe.Number.Binary64
import RowRecipe.Number.Range

/-!
# The levels of the grammar of expressions

The nesting of an expression is limited, and each part that stands inside another one is read one
level further down. The readers of a level know those of the next one only through the descent to
it, which fails at the last level.
-/
namespace RowRecipe.Expression

/-- Where a part of an expression stands. -/
structure Surroundings where
  /-- Whether a function is around it. -/
  inFunction : Bool
  /-- Whether a block holds a single expression. -/
  singleBlocks : Bool
  /-- Whether blocks and loops are operands. -/
  blockOperands : Bool
  inLoop : Bool
  /-- Whether no block is around it. -/
  outermost : Bool
  /-- Whether a vertical bar parts the values of a case. -/
  barsPart : Bool
  /-- Whether the names of the members of a map stand in quotes. -/
  namesQuoted : Bool

namespace Surroundings

def expression : Surroundings := ⟨false, true, false, false, true, false, false⟩

def script : Surroundings := ⟨false, false, true, false, true, false, false⟩

def json : Surroundings := { expression with namesQuoted := true }

def ofBody (around : Surroundings) : Surroundings :=
  ⟨true, around.singleBlocks, true, false, false, false, around.namesQuoted⟩

def ofLoop (around : Surroundings) : Surroundings := { around with inLoop := true }

def ofBlock (around : Surroundings) : Surroundings := { around with outermost := false }

end Surroundings

/-- The readers of a level. -/
structure Readers where
  tree : Surroundings → Reader Tree
  /-- A tree one level further down, which is reached at a place. -/
  treeBelow : Position → Surroundings → Reader Tree
  operand : Surroundings → Reader Tree
  /-- The operators that bind tighter than a level, behind an operand, with their right operands;
  a level further down is reached at a place. -/
  operators : Surroundings → Nat → Position → Tree → Reader Tree
  /-- What follows a point, which may be optional and has a place, and the links behind it. -/
  member : Surroundings → Bool → Position → Reader (List Link)
  /-- What follows an opening bracket, and the brackets behind it. -/
  indexes : Surroundings → Option Tree → Bool → Position → Reader (List Link)
  block : Surroundings → Reader Statement
  choice : Surroundings → Reader Statement
  selection : Surroundings → Reader Statement
  statement : Surroundings → Reader Statement

/-- The descent to the next level at a place. -/
abbrev Descent := Position → Except SourceError Readers

namespace Tree

def isConstant : Tree → Bool
  | .literal .. => true
  | .array items _ => allConstant items
  | .map members _ => allConstantMembers members
  | .operation operator (.literal first _) (.literal last _) _ =>
    (operator == .rangeTo || operator == .rangeThrough) && isEnd first && isEnd last
  | _ => false
where
  isEnd : Literal → Bool
    | .whole _ | .null => true
    | _ => false
  allConstant : List Tree → Bool
    | [] => true
    | tree :: trees => tree.isConstant && allConstant trees
  allConstantMembers : List (String × Tree) → Bool
    | [] => true
    | (_, tree) :: members => tree.isConstant && allConstantMembers members

/-- What a tree is if it cannot be a truth value. -/
def notBoolean? : Tree → Option String
  | .literal .null _ => some "()"
  | .literal (.whole _) _ => some "a number"
  | .literal (.float _) _ => some "a floating-point number"
  | .literal (.char _) _ => some "a character"
  | .literal (.text _) _ | .spliced .. => some "a string"
  | .array .. => some "an array"
  | .map .. => some "an object map"
  | _ => none

def checkBoolean (tree : Tree) : Except SourceError Unit :=
  match tree.notBoolean? with
  | some found => .error ⟨.notBoolean found, tree.start⟩
  | none => .ok ()

/-- What a tree is if it cannot be an index of a map. -/
def notName? : Tree → Option String
  | .literal (.whole _) _ => some "a number"
  | .literal (.float _) _ => some "a float"
  | .literal (.char _) _ => some "a character"
  | .literal .null _ => some "()"
  | .literal (.boolean _) _ | .connected .both .. | .connected .either .. => some "a boolean"
  | _ => none

/-- What a tree is if it cannot be an index of an array or a text, and the kind that is needed. -/
def notPlace? : Tree → Option (String × String)
  | .literal (.text _) _ | .spliced .. => some ("numeric", "a string")
  | .literal (.whole _) _ => none
  | tree => tree.notName?.map (("integer", ·))

/-- Why a tree is no index of another one. -/
def badIndex? (container index : Tree) : Option String :=
  match container with
  | .map .. => index.notName?.map fun found => "Object map expects string index, not " ++ found
  | .literal (.whole _) _ | .literal (.text _) _ | .array .. | .spliced .. =>
    index.notPlace?.map fun (kind, found) =>
      "Array, string or bit-field expects " ++ kind ++ " index, not " ++ found
  | _ => none

/-- Appends links to what may be a chain. -/
def attach (base : Tree) : List Link → Tree
  | [] => base
  | first :: others => .chain base first others

/-- The tree of a sign and its operand. -/
def signed (sign : Sign) (operand : Tree) (place : Position) : Tree :=
  match sign, operand with
  | .minus, .literal (.whole value) _ =>
    match whole? (-value.toInt) with
    | some negated => .literal (.whole negated) place
    | none => .literal (.float (-(Binary64.ofInt value.toInt))) place
  | .minus, .literal (.float value) _ => .literal (.float (-value)) place
  | .plus, .literal (.whole value) at' => .literal (.whole value) at'
  | .plus, .literal (.float value) at' => .literal (.float value) at'
  | sign, operand => .sign sign operand place

/-- The operands of a connective in a row, if a tree is one that may be continued. -/
def operandsOf (connective : Connective) (tree : Tree) : List Tree :=
  match tree with
  | .connected other operands _ => if other = connective then operands else [tree]
  | tree => [tree]

/-- Puts an operator between two operands. -/
def join (op : Infix) (left right : Tree) (place : Position) : Except SourceError Tree :=
  match op with
  | .operator operator => .ok (.operation operator left right place)
  | .within expected => .ok (.within expected left right place)
  | .connective connective => do
    if connective ≠ .present then
      left.checkBoolean
      right.checkBoolean
    let at' := match left with
      | .connected other _ first => if other = connective then first else place
      | _ => place
    return .connected connective (left.operandsOf connective ++ [right]) at'

end Tree

end RowRecipe.Expression
