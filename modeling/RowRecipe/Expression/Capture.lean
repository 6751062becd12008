import RowRecipe.Expression.Tree

/-!
# Variables that a function takes from around it

A variable in the body of a function that is neither a parameter nor declared in front of it there
is one of the variables around the function.
-/
namespace RowRecipe.Expression

mutual

/-- The free variables of a tree, some names being bound, in the order of the text. -/
def Tree.free (bound : List String) : Tree → List Placed
  | .literal .. | .this _ | .member .. => []
  | .variable name place => if name ∈ bound then [] else [(name, place)]
  | .spliced pieces _ => freeOfTrees bound pieces
  | .array items _ => freeOfTrees bound items
  | .map members _ => freeOfMembers bound members
  | .sign _ operand _ => operand.free bound
  | .operation _ left right _ | .within _ left right _ => left.free bound ++ right.free bound
  | .connected _ operands _ => freeOfTrees bound operands
  | .call _ _ arguments _ _ => freeOfTrees bound arguments
  | .chain base first others => base.free bound ++ first.free bound ++ freeOfLinks bound others
  | .lambda _ held _ _ => held.filter fun placed => placed.1 ∉ bound
  | .statement statement _ => (statement.free bound).1

def freeOfTrees (bound : List String) : List Tree → List Placed
  | [] => []
  | tree :: trees => tree.free bound ++ freeOfTrees bound trees

def freeOfMembers (bound : List String) : List (String × Tree) → List Placed
  | [] => []
  | (_, tree) :: members => tree.free bound ++ freeOfMembers bound members

def Link.free (bound : List String) : Link → List Placed
  | .property .. => []
  | .method _ arguments _ _ _ => freeOfTrees bound arguments
  | .index place _ _ => place.free bound

def freeOfLinks (bound : List String) : List Link → List Placed
  | [] => []
  | link :: links => link.free bound ++ freeOfLinks bound links

/-- The free variables of a statement, and the names bound behind it. -/
def Statement.free (bound : List String) : Statement → List Placed × List String
  | .empty _ | .next _ => ([], bound)
  | .tree inner | .importing inner => (inner.free bound, bound)
  | .exporting name place => (if name ∈ bound then [] else [(name, place)], bound)
  | .block statements _ => (freeOfStatements bound statements, bound)
  | .choice guard body other _ =>
    (guard.free bound ++ (body.free bound).1 ++ (other.free bound).1, bound)
  | .selection subject cases _ => (subject.free bound ++ freeOfCases bound cases, bound)
  | .loop (.guarded) guard body _ => (guard.free bound ++ (body.free bound).1, bound)
  | .loop (.asked _) guard body _ => ((body.free bound).1 ++ guard.free bound, bound)
  | .each item counter container body _ =>
    let inner := item :: counter.toList ++ bound
    (container.free bound ++ (body.free inner).1, bound)
  | .declaration _ name value _ =>
    (match value with
      | some inner => inner.free bound
      | none => [], name :: bound)
  | .assignment _ target value _ => (target.free bound ++ value.free bound, bound)
  | .leave value _ | .answer value _ | .throwing value _ =>
    (match value with
      | some inner => inner.free bound
      | none => [], bound)
  | .attempt body fault rescue _ =>
    ((body.free bound).1 ++ (rescue.free (fault.toList ++ bound)).1, bound)

def freeOfStatements (bound : List String) : List Statement → List Placed
  | [] => []
  | statement :: statements =>
    let (free, bound) := statement.free bound
    free ++ freeOfStatements bound statements

def freeOfCases (bound : List String) : List Case → List Placed
  | [] => []
  | .case _ guard result :: cases =>
    (match guard with
      | some tree => tree.free bound
      | none => []) ++ (result.free bound).1 ++ freeOfCases bound cases

end

/-- Variables with distinct names, the first place of each one being kept. -/
def distinctNames : List Placed → List Placed
  | [] => []
  | placed :: rest => placed :: (distinctNames rest).filter fun other => other.1 ≠ placed.1

/-- The variables around a function that its body needs. -/
def heldBy (parameters : List String) (body : Statement) : List Placed :=
  distinctNames (body.free parameters).1

end RowRecipe.Expression
