import RowRecipe.Expression.Library.Stretch
import RowRecipe.Expression.Operation

/-!
# Simplifying expressions

What an expression spells out in full is computed once. A truth value that decides nothing takes no
part in a conjunction or disjunction, and one that decides everything ends it; an operand that is
left alone is the whole. An operation that fails is left as it is, and fails when it is evaluated.
-/
namespace RowRecipe.Expression

/-- Whether an operator on two literals is computed at once. Adding to a text is, if it adds a text,
a character or nothing. -/
def foldsOn (operator : Operator) (left right : Literal) : Bool :=
  match operator, left, right with
  | .add, .text _, .text _ | .add, .text _, .char _ | .add, .text _, .null
  | .add, .char _, .text _ | .add, .null, .text _ => true
  | .add, .text _, _ | .add, _, .text _ => false
  | _, _, _ => true

def foldOperation (operator : Operator) (left right : Tree) (place : Position) : Tree :=
  match left, right with
  | .literal a _, .literal b _ =>
    if foldsOn operator a b then
      match operate operator (.ofLiteral a) (.ofLiteral b) with
      | .ok value =>
        match value.toLiteral? with
        | some result => .literal result place
        | none => .operation operator left right place
      | .error _ => .operation operator left right place
    else .operation operator left right place
  | _, _ => .operation operator left right place

/-- The operands of a conjunction, or of a disjunction, that count: without those that decide
nothing, up to the first that decides. -/
def deciding (decisive : Bool) : List Tree → List Tree
  | [] => []
  | .literal (.boolean value) place :: trees =>
    if value = decisive then [.literal (.boolean value) place] else deciding decisive trees
  | tree :: trees => tree :: deciding decisive trees

/-- The operands of a choice of what is present that count: without nulls in front, and none behind
a first literal. -/
def presentOf : List Tree → List Tree
  | [] => []
  | .literal .null _ :: trees => presentOf trees
  | .literal value place :: _ => [.literal value place]
  | trees => trees

/-- The tree of a connective on trees. -/
def foldConnected (connective : Connective) (operands : List Tree) (place : Position) : Tree :=
  let left := match connective with
    | .both => deciding false operands
    | .either => deciding true operands
    | .present => presentOf operands
  match left with
  | [] => .literal (.boolean (connective == .both)) place
  | [tree] => tree
  | trees => .connected connective trees place

namespace Tree

mutual

/-- Whether a tree has a value without any operation or variable. -/
def isPure : Tree → Bool
  | .literal .. => true
  | .spliced pieces _ => allPure pieces
  | .array items _ => allPure items
  | .map members _ => allPureMembers members
  | .connected _ operands _ => allPure operands
  | _ => false

def allPure : List Tree → Bool
  | [] => true
  | tree :: trees => tree.isPure && allPure trees

def allPureMembers : List (String × Tree) → Bool
  | [] => true
  | (_, tree) :: members => tree.isPure && allPureMembers members

end

def movedTo (place : Position) : Tree → Tree
  | .literal value _ => .literal value place
  | .spliced pieces _ => .spliced pieces place
  | .array items _ => .array items place
  | .map members _ => .map members place
  | .connected connective operands _ => .connected connective operands place
  | tree => tree

end Tree

def literalAt? (value : Literal) (index : Int) : Option Literal :=
  match value with
  | .text text => ((place? text.length index).bind (text.toList[·]?)).map .char
  | .whole n =>
    (place? 64 index).map fun place => .boolean (n.toInt.fdiv (Int.pow 2 place) % 2 == 1)
  | _ => none

/-- The tree that a link takes from another one, if it can be told at once. -/
def taken? (base : Tree) (link : Link) : Option Tree :=
  match base, link with
  | .array items place, .index (.literal (.whole index) _) _ _ =>
    if Tree.allPure items then
      ((place? items.length index.toInt).bind (items[·]?)).map (Tree.movedTo place)
    else none
  | .map members place, .index (.literal (.text name) _) _ _
  | .map members place, .property name _ _ _ =>
    if Tree.allPureMembers members then
      some (match members.find? fun member => member.1 == name with
        | some (_, tree) => tree.movedTo place
        | none => .literal .null place)
    else none
  | .literal value place, .index (.literal (.whole index) _) _ _ =>
    (literalAt? value index.toInt).map (.literal · place)
  | base, .method "type_of" [] _ _ place =>
    match base with
    | .literal value _ => some (.literal (.text (Value.ofLiteral value).typeName) place)
    | _ => none
  | _, _ => none

/-- The tree of a chain. -/
def foldChain (base : Tree) (first : Link) (others : List Link) : Tree :=
  match base, first, others with
  | .literal .null place, .property _ true _ _, _ | .literal .null place, .method _ _ true _ _, _
  | .literal .null place, .index _ true _, _ => .literal .null place
  | base, first, [] => (taken? base first).getD (.chain base first [])
  | base, first, others => .chain base first others

def foldCall (path : List Placed) (function : String) (arguments : List Tree) (sees : Bool)
    (place : Position) : Tree :=
  let call := Tree.call path function arguments sees place
  match path, function, arguments with
  | [], "type_of", [.literal value _] => .literal (.text (Value.ofLiteral value).typeName) place
  | _, _, _ => call

def foldSign (sign : Sign) (operand : Tree) (place : Position) : Tree :=
  match sign, operand with
  | .not, .literal (.boolean value) at' => .literal (.boolean !value) at'
  | sign, operand => .sign sign operand place

def foldStatement (statement : Statement) (place : Position) : Tree :=
  match statement with
  | .tree tree => tree
  | .block [.tree tree] _ => tree
  | .empty _ => .literal .null place
  | statement => .statement statement place

/-- The statement of a choice. -/
def foldChoice (guard : Tree) (body other : Statement) (place : Position) : Statement :=
  match guard with
  | .literal (.boolean value) _ => if value then body else other
  | guard => .choice guard body other place

mutual

def Tree.simplify : Tree → Tree
  | .spliced pieces place => .spliced (simplifyTrees pieces) place
  | .array items place => .array (simplifyTrees items) place
  | .map members place => .map (simplifyMembers members) place
  | .sign sign operand place => foldSign sign operand.simplify place
  | .operation operator left right place =>
    foldOperation operator left.simplify right.simplify place
  | .connected connective operands place =>
    foldConnected connective (simplifyTrees operands) place
  | .within expected part container place =>
    .within expected part.simplify container.simplify place
  | .call path function arguments sees place =>
    foldCall path function (simplifyTrees arguments) sees place
  | .chain base first others => foldChain base.simplify first.simplify (simplifyLinks others)
  | .statement statement place => foldStatement statement.simplify place
  | tree => tree

def simplifyTrees : List Tree → List Tree
  | [] => []
  | tree :: trees => tree.simplify :: simplifyTrees trees

def simplifyMembers : List (String × Tree) → List (String × Tree)
  | [] => []
  | (name, tree) :: members => (name, tree.simplify) :: simplifyMembers members

def Link.simplify : Link → Link
  | .property name optional mark place => .property name optional mark place
  | .method name arguments optional mark place =>
    .method name (simplifyTrees arguments) optional mark place
  | .index place optional mark => .index place.simplify optional mark

def simplifyLinks : List Link → List Link
  | [] => []
  | link :: links => link.simplify :: simplifyLinks links

def Statement.simplify : Statement → Statement
  | .tree inner => .tree inner.simplify
  | .block statements place => .block (simplifyStatements statements) place
  | .choice guard body other place =>
    foldChoice guard.simplify body.simplify other.simplify place
  | .selection subject cases place =>
    .selection subject.simplify (simplifyCases cases) place
  | statement => statement

def simplifyStatements : List Statement → List Statement
  | [] => []
  | statement :: statements => statement.simplify :: simplifyStatements statements

def simplifyCases : List Case → List Case
  | [] => []
  | .case patterns none result :: cases =>
    .case patterns none result.simplify :: simplifyCases cases
  | .case patterns (some guard) result :: cases =>
    .case patterns (some guard.simplify) result.simplify :: simplifyCases cases

end

end RowRecipe.Expression
