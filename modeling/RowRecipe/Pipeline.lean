import RowRecipe.Recipe

/-!
# Running a recipe

The steps of a recipe run one after another, each on the batch that the step before leaves. Rows
that a step diverts are recorded; they leave the batch or stay in their places. The first step that
fails ends the run.
-/
namespace RowRecipe

/-- What becomes of rows that are diverted. -/
inductive ErrorRows where
  | divert
  | retain
  deriving Repr, DecidableEq

/-- A row that was diverted, with the step that did it. -/
structure ErrorRecord where
  row : Row
  directive : String
  line : Nat
  message : String
  code : Int

def ErrorRecord.toExactJson (record : ErrorRecord) : Json :=
  .object [("row", record.row.toExactJson), ("directive", .text record.directive),
    ("line", .whole (Int64.ofNat record.line)), ("message", .text record.message),
    ("code", .whole (Int64.ofInt record.code))]

/-- What is left when all steps have run. -/
structure RunResult where
  rows : List Row
  errors : List ErrorRecord
  /-- The variables at the end. -/
  store : Store

/-- What ended a run, and the step that it happened in. -/
structure ExecutionError where
  directive : String
  line : LogicalLine
  fault : Fault

def ExecutionError.message (failure : ExecutionError) : String :=
  "Directive '" ++ failure.directive ++ "' at line " ++ integerText failure.line.number ++ " ('"
    ++ failure.line.text ++ "') failed: " ++ failure.fault.message

namespace Outcome

def stays (policy : ErrorRows) : Outcome → Bool
  | .keep _ => true
  | .divert _ _ _ => policy == .retain

def batch (policy : ErrorRows) (outcomes : List Outcome) : List Row :=
  (outcomes.filter (stays policy)).map Outcome.row

end Outcome

namespace Step

def record? (step : Step) : Outcome → Option ErrorRecord
  | .keep _ => none
  | .divert row message code => some ⟨row, step.name, step.line.number, message, code⟩

def records (step : Step) (outcomes : List Outcome) : List ErrorRecord :=
  outcomes.filterMap step.record?

end Step

/-- Runs steps on a batch and some variables. -/
def runSteps (policy : ErrorRows) :
    List Step → List Row → Store → Except ExecutionError RunResult
  | [], rows, store => .ok ⟨rows, [], store⟩
  | step :: steps, rows, store =>
    match step.directive.execute rows store with
    | (.error fault, _) => .error ⟨step.name, step.line, fault⟩
    | (.ok outcomes, store) =>
      (runSteps policy steps (Outcome.batch policy outcomes) store).map fun result =>
        { result with errors := step.records outcomes ++ result.errors }

/-- The steps of a recipe, with what becomes of rows that are diverted. -/
structure Pipeline where
  steps : List Step
  policy : ErrorRows

/-- Runs the steps on a batch without variables. -/
def Pipeline.run (pipeline : Pipeline) (rows : List Row) : Except ExecutionError RunResult :=
  runSteps pipeline.policy pipeline.steps rows SortedMap.empty

end RowRecipe
