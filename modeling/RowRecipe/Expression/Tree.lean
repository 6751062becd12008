import RowRecipe.Expression.Position

/-!
# Expression trees

A tree applies operators and functions to literals and variables. What follows an operand in a
chain of properties, method calls and indexes is a list of links. A choice between trees, and what
a function does, are statements; the scripts that expressions run are lists of them.
-/
namespace RowRecipe.Expression

/-- Operators with one operand. -/
inductive Sign where
  | minus | plus | not
  deriving Repr, DecidableEq

def Sign.symbol : Sign → String
  | .minus => "-"
  | .plus => "+"
  | .not => "!"

/-- Operators with two operands that both are needed. -/
inductive Operator where
  | bitOr | bitXor | bitAnd
  | equal | notEqual
  | less | lessOrEqual | greater | greaterOrEqual
  | rangeTo | rangeThrough
  | add | subtract
  | multiply | divide | modulo
  | power
  | shiftLeft | shiftRight
  deriving Repr, DecidableEq

def Operator.symbol : Operator → String
  | .bitOr => "|"
  | .bitXor => "^"
  | .bitAnd => "&"
  | .equal => "=="
  | .notEqual => "!="
  | .less => "<"
  | .lessOrEqual => "<="
  | .greater => ">"
  | .greaterOrEqual => ">="
  | .rangeTo => ".."
  | .rangeThrough => "..="
  | .add => "+"
  | .subtract => "-"
  | .multiply => "*"
  | .divide => "/"
  | .modulo => "%"
  | .power => "**"
  | .shiftLeft => "<<"
  | .shiftRight => ">>"

/-- Operators on several operands, of which the later ones may not be needed. -/
inductive Connective where
  /-- The first operand that is false, or truth. -/
  | both
  /-- The first operand that is true, or falsehood. -/
  | either
  /-- The first operand that is not null. -/
  | present
  deriving Repr, DecidableEq

/-- What stands between two operands. -/
inductive Infix where
  | operator (operator : Operator)
  | connective (connective : Connective)
  /-- Membership, or its contrary. -/
  | within (expected : Bool)
  deriving Repr, DecidableEq

namespace Infix

def ofSymbol? (symbol : String) : Option Infix :=
  (table.find? fun entry => entry.1 == symbol).map Prod.snd
where
  table : List (String × Infix) :=
    [.bitOr, .bitXor, .bitAnd, .equal, .notEqual, .less, .lessOrEqual, .greater, .greaterOrEqual,
        .rangeTo, .rangeThrough, .add, .subtract, .multiply, .divide, .modulo, .power, .shiftLeft,
        .shiftRight].map (fun operator => (Operator.symbol operator, .operator operator))
      ++ [("&&", .connective .both), ("||", .connective .either), ("??", .connective .present),
        ("in", .within true), ("!in", .within false)]

/-- How tightly an operator binds its operands. -/
def level : Infix → Nat
  | .connective .either | .operator .bitOr | .operator .bitXor => 1
  | .connective .both | .operator .bitAnd => 2
  | .operator .equal | .operator .notEqual => 3
  | .within _ => 4
  | .operator .less | .operator .lessOrEqual | .operator .greater | .operator .greaterOrEqual => 5
  | .connective .present => 6
  | .operator .rangeTo | .operator .rangeThrough => 7
  | .operator .add | .operator .subtract => 8
  | .operator .multiply | .operator .divide | .operator .modulo => 9
  | .operator .power => 10
  | .operator .shiftLeft | .operator .shiftRight => 11

/-- Whether the second of two equal operators in a row is applied first. -/
def bindsRight : Infix → Bool
  | .operator .power => true
  | _ => false

end Infix

/-- A value that a text spells. -/
inductive Literal where
  | null
  | boolean (value : Bool)
  | whole (value : Int64)
  | float (value : Float)
  | char (value : Char)
  | text (value : String)
  deriving DecidableEq

/-- A name with its place. -/
abbrev Placed := String × Position

/-- How a loop statement goes on. -/
inductive LoopKind where
  /-- As long as the guard is true, asked in front of each round. -/
  | guarded
  /-- After each round as long as the guard has this value. -/
  | asked (goOn : Bool)
  deriving Repr, DecidableEq

mutual

inductive Tree where
  | literal (value : Literal) (place : Position)
  | variable (name : String) (place : Position)
  /-- The value that a function is a method of. -/
  | this (place : Position)
  /-- A name in a module. -/
  | member (path : List Placed) (name : String) (place : Position)
  /-- A text with the texts of trees among its pieces. -/
  | spliced (pieces : List Tree) (place : Position)
  | array (items : List Tree) (place : Position)
  | map (members : List (String × Tree)) (place : Position)
  | sign (sign : Sign) (operand : Tree) (place : Position)
  | operation (operator : Operator) (left right : Tree) (place : Position)
  | connected (connective : Connective) (operands : List Tree) (place : Position)
  /-- Whether the first operand is in the second one. -/
  | within (expected : Bool) (part container : Tree) (place : Position)
  /-- A call of a function, with the variables around it if it sees them. -/
  | call (path : List Placed) (function : String) (arguments : List Tree) (sees : Bool)
      (place : Position)
  /-- An operand, and the first and the other links of a chain behind it. -/
  | chain (base : Tree) (first : Link) (others : List Link)
  /-- A function without a name, with the variables around it that it holds. -/
  | lambda (parameters : List String) (held : List Placed) (body : Statement) (place : Position)
  /-- The value of a statement. -/
  | statement (statement : Statement) (place : Position)

/-- A link of a chain, with the position of its point or bracket and that of its name. An optional
link of null is null, and the links behind it are none. -/
inductive Link where
  | property (name : String) (optional : Bool) (mark place : Position)
  | method (name : String) (arguments : List Tree) (optional : Bool) (mark place : Position)
  | index (index : Tree) (optional : Bool) (mark : Position)

inductive Statement where
  | empty (place : Position)
  | tree (tree : Tree)
  | block (statements : List Statement) (place : Position)
  | choice (guard : Tree) (body other : Statement) (place : Position)
  | selection (subject : Tree) (cases : List Case) (place : Position)
  | loop (kind : LoopKind) (guard : Tree) (body : Statement) (place : Position)
  | each (item : String) (counter : Option String) (container : Tree) (body : Statement)
      (place : Position)
  | declaration (constant : Bool) (name : String) (value : Option Tree) (place : Position)
  | assignment (operator : Option Operator) (target value : Tree) (place : Position)
  /-- Leaves the loop around it with a value. -/
  | leave (value : Option Tree) (place : Position)
  /-- Goes on with the next round of the loop around it. -/
  | next (place : Position)
  | answer (value : Option Tree) (place : Position)
  | throwing (value : Option Tree) (place : Position)
  | attempt (body : Statement) (fault : Option String) (rescue : Statement) (place : Position)
  /-- Looks up a module. -/
  | importing (path : Tree)
  /-- Gives a variable away to modules that look this one up. -/
  | exporting (name : String) (place : Position)

/-- A case of a selection: the values that it is for, none standing for all of them, and the guard
that must hold. -/
inductive Case where
  | case (patterns : List Tree) (guard : Option Tree) (result : Statement)

end

namespace Link

/-- The position of the point or bracket. -/
def mark : Link → Position
  | .property _ _ mark _ | .method _ _ _ mark _ | .index _ _ mark => mark

def isOptional : Link → Bool
  | .property _ optional _ _ | .method _ _ optional _ _ | .index _ optional _ => optional

def isIndex : Link → Bool
  | .index .. => true
  | _ => false

/-- The links of a chain as they are meant: an index is optional only if nothing but indexes follows
it, and if the next one, or the last one itself, is marked so. -/
def settled : List Link → List Link
  | [] => []
  | .index place optional mark :: links =>
    let meant := links.all isIndex && ((links.head?.map isOptional).getD optional)
    .index place meant mark :: settled links
  | link :: links => link :: settled links

end Link

namespace Tree

/-- The position that errors about the value of a tree name. -/
def position : Tree → Position
  | .literal _ place | .variable _ place | .this place | .member _ _ place | .spliced _ place
  | .array _ place | .map _ place | .sign _ _ place | .operation _ _ _ place
  | .connected _ _ place | .within _ _ _ place | .call _ _ _ _ place | .lambda _ _ _ place
  | .statement _ place => place
  | .chain _ first _ => first.mark

def start : Tree → Position
  | .connected _ (first :: _) _ => first.start
  | .chain base _ _ => base.start
  | .member ((_, place) :: _) _ _ | .call ((_, place) :: _) _ _ _ _ => place
  | tree => tree.position

end Tree

end RowRecipe.Expression
