import RowRecipe.Expression.Grammar
import RowRecipe.Expression.Operation

/-!
# The cases of a selection

A value is looked for among the constants of all cases first. A short range stands for each of its
numbers as long as no longer one comes in front of it; other ranges count only for a value that no
constant is, and a float may be in them as well.
-/
namespace RowRecipe.Expression

namespace Value

mutual

/-- Whether two values are the same, of one type and with the same parts. -/
def same : Value → Value → Bool
  | .float a, .float b => a.toBits == b.toBits
  | .whole a, .whole b => a == b
  | .char a, .char b => a == b
  | .text a, .text b => a == b
  | .array a, .array b => sameItems a b
  | .map a, .map b => sameMembers a b
  | .null, .null | .boolean true, .boolean true | .boolean false, .boolean false => true
  | _, _ => false

def sameItems : List Value → List Value → Bool
  | [], [] => true
  | a :: as, b :: bs => a.same b && sameItems as bs
  | _, _ => false

def sameMembers : List (String × Value) → List (String × Value) → Bool
  | [], [] => true
  | (a, x) :: as, (b, y) :: bs => a == b && x.same y && sameMembers as bs
  | _, _ => false

end

end Value

mutual

/-- The value that a constant spells out, null for any other tree. -/
def Tree.constantValue : Tree → Value
  | .literal value _ => .ofLiteral value
  | .array items _ => .array (constantValues items)
  | .map members _ => .map (constantMembers members)
  | .operation .rangeTo first last _ =>
    (rangeBetween? false first.constantValue last.constantValue).getD .null
  | .operation .rangeThrough first last _ =>
    (rangeBetween? true first.constantValue last.constantValue).getD .null
  | _ => .null

def constantValues : List Tree → List Value
  | [] => []
  | tree :: trees => tree.constantValue :: constantValues trees

def constantMembers : List (String × Tree) → List (String × Value)
  | [] => []
  | (name, tree) :: members => insertEntry name tree.constantValue (constantMembers members)

end

/-- Whether a value is in a range, a whole one or, if that counts, a float. -/
def isWithin (floats closed : Bool) (first last : Int64) : Value → Bool
  | .whole value => first ≤ value && (if closed then value ≤ last else value < last)
  | .float value =>
    let low := Binary64.ofInt first.toInt
    let high := Binary64.ofInt last.toInt
    floats && low ≤ value && (if closed then value ≤ high else value < high)
  | _ => false

/-- Whether a pattern is a range that does not stand for its numbers, or one is in front of it. -/
def isLong (seen : Bool) (pattern : Tree) : Bool :=
  seen || shortRange < pattern.rangeSize

/-- Whether a value meets a pattern, as a constant or as one of its range. -/
def meets (subject : Value) (byRange seen : Bool) (pattern : Tree) : Bool :=
  match pattern.constantValue with
  | .range closed first last =>
    byRange == isLong seen pattern && isWithin byRange closed first last subject
  | value => !byRange && value.same subject

/-- Whether a value meets one of some patterns. -/
def meetsAny (subject : Value) (byRange : Bool) : Bool → List Tree → Bool
  | _, [] => false
  | seen, pattern :: patterns =>
    meets subject byRange seen pattern
      || meetsAny subject byRange (isLong seen pattern) patterns

/-- Whether a value is one of the constants of some cases. -/
def meetsConstant (subject : Value) : Bool → List Case → Bool
  | _, [] => false
  | seen, .case patterns _ _ :: cases =>
    meetsAny subject false seen patterns
      || meetsConstant subject (patterns.foldl isLong seen) cases

end RowRecipe.Expression
