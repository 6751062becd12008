import RowRecipe.Transform

/-!
# The command line

A command works on files by name and reports what is to be printed and written and how it ends. It
sees each file as its bytes or the reason why it cannot be read, so a report depends on nothing but
the command and the files. A file that cannot be written ends the report at that point.
-/
namespace RowRecipe

inductive Command where
  | run (input recipe : String) (output errors config : Option String)
  | check (recipe : String) (config : Option String)
  | directives
  | parse (input : String) (output : Option String)
  deriving Repr, DecidableEq

/-- One thing that a command does. -/
inductive Action where
  /-- A line is written on the standard error. -/
  | note (line : String)
  /-- A line is written on the standard output. -/
  | print (line : String)
  /-- A file is written. -/
  | save (name text : String)
  deriving Repr, DecidableEq

/-- What a command comes to: what it does, in order, and the status with which it ends. -/
structure Report where
  actions : List Action
  status : Nat

/-- The files that a command sees. -/
abbrev Files := String → Except String (List UInt8)

def Files.text (files : Files) (name : String) : Except String String :=
  match files name with
  | .error problem => .error problem
  | .ok bytes =>
    match Utf8.decode bytes with
    | .ok cs => .ok (String.ofList cs)
    | .error _ => .error "stream did not contain valid UTF-8"

/-- The configuration in a file, or the standard one. -/
def Files.config (files : Files) : Option String → Except ConfigError Config
  | none => .ok .standard
  | some name =>
    match files.text name with
    | .error problem => .error (.unreadable problem)
    | .ok text => Config.read text

namespace Report

/-- How a failure is noted. -/
def failureLine (problem : String) : String :=
  "❌ Error: " ++ problem

/-- The note of a failure. -/
def failure (problem : String) : Action :=
  .note (failureLine problem)

/-- The report of a command that fails, behind some notes. -/
def failed (notes : List String) (problem : String) : Report :=
  ⟨notes.map .note ++ [failure problem], 1⟩

/-- The report of a command that breaks down. -/
def broken (notes : List String) : Report :=
  ⟨notes.map .note, 101⟩

/-- What puts a text into a file, if there is one for it, or on the standard output. -/
def delivery (text : String) : Option String → List Action
  | none => [.print text]
  | some name => [.save name text, .note ("💾 Output written to: " ++ name)]

/-- What is done up to the first file that cannot be written, by a rule that says why not. -/
def doneUnder (refusal : String → Option String) (status : Nat) : List Action → Report
  | [] => ⟨[], status⟩
  | .save name text :: actions =>
    match refusal name with
    | some problem => ⟨[failure problem], 1⟩
    | none =>
      let rest := doneUnder refusal status actions
      { rest with actions := .save name text :: rest.actions }
  | action :: actions =>
    let rest := doneUnder refusal status actions
    { rest with actions := action :: rest.actions }

/-- A report as it comes out where some files cannot be written. -/
def under (refusal : String → Option String) (report : Report) : Report :=
  doneUnder refusal report.status report.actions

/-- The lines on the standard output. -/
def output (report : Report) : List String :=
  report.actions.filterMap fun
    | .print line => some line
    | _ => none

/-- The lines on the standard error. -/
def notes (report : Report) : List String :=
  report.actions.filterMap fun
    | .note line => some line
    | _ => none

/-- The files that are written, with their texts. -/
def files (report : Report) : List (String × String) :=
  report.actions.filterMap fun
    | .save name text => some (name, text)
    | _ => none

end Report

namespace Command

def delimiterText (delimiter : Char) : String :=
  if delimiter = '\t' then "\\t" else delimiter.toString

def rowsText (rows : List Row) : String :=
  (Json.array (rows.map Row.toExactJson)).spreadText

/-- A number with blanks in front up to four places. -/
def lineNumber (n : Nat) : String :=
  let digits := integerChars n
  String.ofList (List.replicate (4 - digits.length) ' ' ++ digits)

def checkRecipe (files : Files) (recipe : String) (config : Option String) : Report :=
  match files.config config with
  | .error fault => .failed [] fault.message
  | .ok config =>
    match files.text recipe with
    | .error problem => .failed [] problem
    | .ok text =>
      match config.pipeline .standard text with
      | .error fault => .failed [] fault.message
      | .ok pipeline =>
        let lines := pipeline.steps.map fun step =>
          lineNumber step.line.number ++ "  " ++ step.line.text
        ⟨lines.map .print
          ++ [.note ("✅ " ++ integerText pipeline.steps.length ++ " directives OK")], 0⟩

def listDirectives : Report :=
  let lines := Registry.standard.list.flatMap fun entry =>
    [entry.usage.display, "    " ++ entry.description]
  ⟨lines.map .print, 0⟩

def parseTable (files : Files) (input : String) (output : Option String) : Report :=
  let notes := ["📄 Parsing CSV: " ++ input]
  match files input with
  | .error problem => .failed notes (CsvError.unreadable problem).message
  | .ok bytes =>
    match readTable bytes with
    | none => .broken notes
    | some (.error fault) => .failed notes fault.message
    | some (.ok table) =>
      let notes := notes ++
        ["   Encoding: " ++ table.encoding,
          "   Delimiter: '" ++ delimiterText table.delimiter ++ "' (auto-detected)",
          "   Columns: " ++ Text.join ", " table.headers,
          "✅ Parsed " ++ integerText table.rows.length ++ " records"]
      ⟨notes.map .note ++ Report.delivery (rowsText table.rows) output, 0⟩

/-- What is noted of the records of a run, a few of them in full unless they go into a file. -/
def recordNotes (records : List ErrorRecord) (inFull : Bool) : List String :=
  if records.isEmpty then ["✅ No rows sent to error"]
  else
    ("⚠️  " ++ integerText records.length ++ " rows sent to error")
      :: (if inFull then records.take 5 else []).map fun record =>
          "   line " ++ integerText record.line ++ " (" ++ record.directive ++ "): "
            ++ record.message

/-- What is noted of the variables of a run. -/
def variableNotes (store : Store) : List String :=
  if store.entries.isEmpty then []
  else
    "   Variables:" :: store.entries.map fun (name, value) =>
      "     " ++ name ++ " = " ++ value.display

def runNotes (done : Transformed) (inFull : Bool) : List String :=
  ["   Encoding: " ++ done.table.encoding,
    "   Delimiter: '" ++ delimiterText done.table.delimiter ++ "'",
    "   Rows in: " ++ integerText done.table.rows.length,
    "   Rows out: " ++ integerText done.result.rows.length]
  ++ recordNotes done.result.errors inFull ++ variableNotes done.result.store

/-- What saves the records of a run, if there is a file for them. -/
def saveRecords (records : List ErrorRecord) : Option String → List Action
  | none => []
  | some name =>
    [.save name (Json.array (records.map ErrorRecord.toExactJson)).spreadText,
      .note ("💾 Error records written to: " ++ name)]

def runReport (notes : List String) (done : Transformed) (output errors : Option String) :
    Report :=
  ⟨(notes ++ runNotes done errors.isNone).map .note
      ++ saveRecords done.result.errors errors
      ++ Report.delivery (rowsText done.result.rows) output, 0⟩

def runRecipe (files : Files) (input recipe : String) (output errors config : Option String) :
    Report :=
  let notes := ["📄 Processing: " ++ input]
  match files.config config with
  | .error fault => .failed notes fault.message
  | .ok config =>
    match files.text recipe with
    | .error problem => .failed notes problem
    | .ok text =>
      match transformFile config text (files input) with
      | none => .broken notes
      | some (.error fault) => .failed notes fault.message
      | some (.ok done) => runReport notes done output errors

/-- Carries a command out. -/
def perform (files : Files) : Command → Report
  | .run input recipe output errors config => runRecipe files input recipe output errors config
  | .check recipe config => checkRecipe files recipe config
  | .directives => listDirectives
  | .parse input output => parseTable files input output

/-- The names of the files that a command reads. -/
def inputs : Command → List String
  | .run input recipe _ _ config => config.toList ++ [recipe, input]
  | .check recipe config => config.toList ++ [recipe]
  | .directives => []
  | .parse input _ => [input]

/-- The options of a command line by their letters, and what else stands there. -/
structure Line where
  options : List (Char × String)
  others : List String

namespace Line

/-- The letter of the option with a long name. -/
def letter? (name : List Char) : Option Char :=
  match String.ofList name with
  | "recipe" => some 'r'
  | "output" => some 'o'
  | "errors" => some 'e'
  | "config" => some 'c'
  | _ => none

/-- The letter of an option, and its value if that stands in the same word. -/
def option? (word : List Char) : Option (Char × Option (List Char)) :=
  match word with
  | '-' :: '-' :: name =>
    let (name, value) := name.span (· ≠ '=')
    (letter? name).map fun letter => (letter, value.tail?)
  | '-' :: letter :: value =>
    let value := match value with
      | '=' :: value => value
      | value => value
    some (letter, if value = [] then none else some value)
  | _ => none

/-- Reads words; each option has a value. -/
def read? : List String → Option Line
  | [] => some ⟨[], []⟩
  | [word] =>
    match option? word.toList with
    | none => some ⟨[], [word]⟩
    | some (letter, some value) => some ⟨[(letter, String.ofList value)], []⟩
    | some (_, none) => none
  | word :: next :: words =>
    match option? word.toList with
    | none => (read? (next :: words)).map fun rest => { rest with others := word :: rest.others }
    | some (letter, some value) =>
      (read? (next :: words)).map fun rest =>
        { rest with options := (letter, String.ofList value) :: rest.options }
    | some (letter, none) =>
      (read? words).map fun rest => { rest with options := (letter, next) :: rest.options }

/-- The value of an option. -/
def option (line : Line) (letter : Char) : Option String :=
  (line.options.find? fun entry => entry.1 == letter).map Prod.snd

end Line

def read? : List String → Option Command
  | [] => none
  | word :: words => do
    let line ← Line.read? words
    match word, line.others with
    | "run", [input] =>
      return .run input (← line.option 'r') (line.option 'o') (line.option 'e')
        (line.option 'c')
    | "check", [recipe] => return .check recipe (line.option 'c')
    | "directives", [] => return .directives
    | "parse", [input] => return .parse input (line.option 'o')
    | _, _ => none

end Command

end RowRecipe
