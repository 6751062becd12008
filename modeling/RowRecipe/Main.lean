import RowRecipe.Command
import RowRecipe.Folder

/-!
# The program

Files are read before a command is carried out, and what its report says is done afterwards.
-/
namespace RowRecipe

/-- What is said of a file that cannot be read or written. -/
def fileProblem : IO.Error → String
  | .noFileOrDirectory .. => FileError.missing.message
  | .inappropriateType _ 21 _ =>
    FileError.folderFound.message
  | problem => toString problem

def readFile (name : String) : IO (Except String (List UInt8)) := do
  try
    return .ok (← IO.FS.readBinFile name).toList
  catch problem =>
    return .error (fileProblem problem)

/-- Reads the files that a command needs. -/
def readFiles (names : List String) : IO Files := do
  let contents ← names.mapM fun name => do return (name, ← readFile name)
  return fun name => (contents.lookup name).getD (.error FileError.missing.message)

/-- Does what a report says up to the first file that cannot be written, and gives the status. -/
def carryOut (status : Nat) : List Action → IO Nat
  | [] => return status
  | .note line :: actions => do
    IO.eprintln line
    carryOut status actions
  | .print line :: actions => do
    IO.println line
    carryOut status actions
  | .save name text :: actions => do
    let problem? ← try
        IO.FS.writeFile name text
        pure none
      catch problem => pure (some (fileProblem problem))
    match problem? with
    | none => carryOut status actions
    | some problem =>
      IO.eprintln (Report.failureLine problem)
      return 1

end RowRecipe

open RowRecipe in
/-- Carries out the command that the arguments give. -/
def main (arguments : List String) : IO UInt32 := do
  match Command.read? arguments with
  | none =>
    IO.eprintln "usage: run <input> --recipe <recipe> | check <recipe> | directives | parse <input>"
    return 2
  | some command =>
    let report := command.perform (← readFiles command.inputs)
    return (← carryOut report.status report.actions).toUInt32
