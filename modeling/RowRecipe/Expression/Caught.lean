import RowRecipe.Expression.State

/-!
# Failures that are caught

What is caught of a failure is the value that was thrown, or a map that tells what went wrong and
where. A failure that leaves no way to go on is not caught.
-/
namespace RowRecipe.Expression

namespace Cause

/-- What kind of a failure a cause makes. -/
def kind (cause : Cause) : String :=
  match cause with
  | .unknownVariable _ => "ErrorVariableNotFound"
  | .unknownModule _ => "ErrorModuleNotFound"
  | .wrongType .. => "ErrorMismatchDataType"
  | .wrongResult .. => "ErrorMismatchOutputType"
  | .arrayBounds .. => "ErrorArrayBounds"
  | .textBounds .. => "ErrorStringBounds"
  | .bitBounds _ => "ErrorBitFieldBounds"
  | .notIterable => "ErrorFor"
  | .unboundThis => "ErrorUnboundThis"
  | .constant _ => "ErrorAssignmentToConstant"
  | .syntaxFault _ => "ErrorParsing"
  | .thrown _ => "ErrorRuntime"
  | .stackOverflow => "ErrorStackOverflow"
  | .tooManyRounds => "ErrorTooManyOperations"
  | cause =>
    if cause.function?.isSome then "ErrorFunctionNotFound"
    else if cause.indexer?.isSome then "ErrorIndexingType"
    else if cause.property?.isSome then "ErrorDotExpr"
    else "ErrorArithmetic"

/-- What is known of a cause beside its message. -/
def particulars (cause : Cause) : List (String × Value) :=
  let bounds := fun (size : Nat) (index : Int) =>
    [("index", Value.whole (Int64.ofInt index)), ("length", .whole (Int64.ofNat size))]
  match cause with
  | .unknownVariable name | .constant name => [("variable", .text name)]
  | .unknownModule name => [("module", .text name)]
  | .wrongType found expected | .wrongResult found expected =>
    [("actual", .text found), ("requested", .text expected)]
  | .arrayBounds size index | .textBounds size index => bounds size index
  | .bitBounds index => bounds 64 index
  | cause =>
    (cause.function?.map (("function", Value.text ·))).toList
      ++ (cause.indexer?.map (("type", Value.text ·))).toList
      ++ (cause.property?.map (("property", Value.text ·))).toList

end Cause

namespace Failure

/-- Whether a failure can be caught. -/
def isCatchable (failure : Failure) : Bool :=
  !failure.calls.isEmpty || match failure.cause with
    | .syntaxFault _ | .stackOverflow | .tooManyRounds => false
    | _ => true

/-- What is known of a failure, apart from its message and its place. -/
def particulars (failure : Failure) : List (String × Value) :=
  match failure.calls.getLast? with
  | some call =>
    [("error", .text "ErrorInFunctionCall"), ("function", .text (call.function.getD "anon$")),
      ("source", .text "")]
  | none => ("error", .text failure.cause.kind) :: failure.cause.particulars

/-- What is caught of a failure: the value that was thrown, or what is known of it. -/
def caught (failure : Failure) (thrown : Value) : Value :=
  match failure.cause with
  | .thrown _ => thrown
  | _ =>
    let place := failure.outerPosition
    let placed :=
      if place = .nowhere then []
      else [("line", Value.whole (Int64.ofNat place.line)),
        ("position", .whole (Int64.ofNat place.column))]
    let message := (failure.movedTo .nowhere).message
    .map ((("message", .text message) :: placed ++ failure.particulars).foldl
      (fun members (name, value) => insertEntry name value members) [])

end Failure

/-- What a failure becomes that arises where another one is caught: throwing nothing there means the
caught failure. -/
def rethrown (failure : Failure) (thrown : Value) (halt : Halt) : Halt :=
  match halt with
  | .failure ⟨.thrown _, position, []⟩ .null => .failure (failure.movedTo position) thrown
  | halt => halt

end RowRecipe.Expression
