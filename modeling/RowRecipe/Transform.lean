import RowRecipe.Config
import RowRecipe.Csv

/-!
# Recipes on rows and on files

A recipe is read before there is a look at the data, so that what is wrong with it comes first.
-/
namespace RowRecipe

inductive TransformError where
  | recipe (fault : RecipeError)
  | csv (fault : CsvError)
  | execution (fault : ExecutionError)
  | unreadable (problem : String)

def TransformError.message : TransformError → String
  | .recipe fault => "Recipe error: " ++ fault.message
  | .csv fault => "CSV error: " ++ fault.message
  | .execution fault => "Execution error: " ++ fault.message
  | .unreadable problem => "IO error: " ++ problem

def Config.pipeline (config : Config) (registry : Registry) (recipe : String) :
    Except RecipeError Pipeline :=
  (registry.readRecipe config.lines recipe).map (⟨·, config.errorRows⟩)

def Pipeline.transform (pipeline : Pipeline) (rows : List Row) : Except TransformError RunResult :=
  (pipeline.run rows).mapError .execution

def transformRows (config : Config) (recipe : String) (rows : List Row) :
    Except TransformError RunResult :=
  match config.pipeline .standard recipe with
  | .error fault => .error (.recipe fault)
  | .ok pipeline => pipeline.transform rows

/-- A table as it came in, and what a recipe made of it. -/
structure Transformed where
  table : Table
  result : RunResult

def Table.info (table : Table) : Json :=
  .object
    [("encoding", .text table.encoding), ("delimiter", .text table.delimiter.toString),
      ("headers", .array (table.headers.map .text)),
      ("row_count", .whole (Int64.ofNat table.rows.length))]

/-- Runs a recipe on the bytes of a file. There is no result where the encoding of the bytes is
beyond telling. -/
def transformBytes (config : Config) (recipe : String) (bytes : List UInt8) :
    Option (Except TransformError Transformed) :=
  match config.pipeline .standard recipe with
  | .error fault => some (.error (.recipe fault))
  | .ok pipeline =>
    (readTable bytes).map fun table =>
      match table with
      | .error fault => .error (.csv fault)
      | .ok table => (pipeline.transform table.rows).map (⟨table, ·⟩)

def transformFile (config : Config) (recipe : String) (file : Except String (List UInt8)) :
    Option (Except TransformError Transformed) :=
  match file with
  | .error problem => some (.error (.unreadable problem))
  | .ok bytes => transformBytes config recipe bytes

end RowRecipe
