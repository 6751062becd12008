import RowRecipe.Csv.Record
import RowRecipe.Encoding.Decoding
import RowRecipe.Encoding.Detection
import RowRecipe.Row
import RowRecipe.Text.Pieces

/-!
# CSV tables

The first record of a text names the columns, and each further one that is not empty all through is
a row of texts. A row has a cell for each column: fields that are missing are empty, and fields that
are too many do not count. Fields have no blanks around them.
-/
namespace RowRecipe

inductive CsvError where
  | unreadable (problem : String)
  | wideDelimiter (delimiter : Char)
  /-- A field is no text: the number of the record, where it begins, the number of the field and
  that of its first byte that belongs to no character. -/
  | badField (record : Nat) (mark : Csv.Mark) (field index : Nat)
  | empty
  | noHeaders
  deriving Repr, DecidableEq

def CsvError.message : CsvError → String
  | .unreadable problem => "Failed to read file: " ++ problem
  | .wideDelimiter delimiter =>
    "Failed to read file: delimiter '" ++ delimiter.toString ++ "' is not a single byte"
  | .badField record mark field index =>
    "Invalid CSV format: CSV parse error: record " ++ integerText record ++ " (line "
      ++ integerText mark.line ++ ", field: " ++ integerText field ++ ", byte: "
      ++ integerText mark.byte ++ "): invalid utf-8: invalid UTF-8 in field " ++ integerText field
      ++ " near byte index " ++ integerText index
  | .empty => "CSV file is empty"
  | .noHeaders => "No headers found in CSV"

namespace Csv

/-- The delimiters that a text is searched for, the first of equally frequent ones preferred. -/
def delimiters : List Char := [';', ',', '\t', '|']

/-- The most frequent of some delimiters that is more frequent than the best one so far. -/
def mostFrequent (cs : List Char) (best : Char) (bestCount : Nat) : List Char → Char
  | [] => best
  | delimiter :: others =>
    let count := cs.count delimiter
    if bestCount < count then mostFrequent cs delimiter count others
    else mostFrequent cs best bestCount others

/-- The delimiter that is most frequent in the first line. -/
def detectDelimiter (content : String) : Char :=
  mostFrequent ((Text.lines content).headD "").toList ';' 0 delimiters

/-- The blank bytes that are cut off around fields before they are read as text. -/
def isBlankByte (b : UInt8) : Bool :=
  b == 0x20 || b == 0x09 || b == 0x0A || b == 0x0C || b == 0x0D

def trimBytes (bytes : List UInt8) : List UInt8 :=
  (((bytes.dropWhile isBlankByte).reverse).dropWhile isBlankByte).reverse

/-- The texts of fields from a field on, or the first field that is none and where it goes wrong. -/
def textsFrom (field : Nat) : List (List UInt8) → Except (Nat × Nat) (List String)
  | [] => .ok []
  | bytes :: fields =>
    match Utf8.decode bytes with
    | .error index => .error (field, index)
    | .ok cs => (textsFrom (field + 1) fields).map (String.ofList (Text.trimChars cs) :: ·)

/-- The texts of a record with a number. -/
def texts (number : Nat) (record : Record) : Except CsvError (List String) :=
  (textsFrom 0 record.fields).mapError fun (field, index) =>
    .badField number record.mark field index

def rowOf : List String → List String → Row
  | [], _ => []
  | header :: headers, [] => (header, .text "") :: rowOf headers []
  | header :: headers, field :: fields => (header, .text field) :: rowOf headers fields

/-- The rows of records from a record on. -/
def rowsFrom (headers : List String) (number : Nat) : List Record → Except CsvError (List Row)
  | [] => .ok []
  | record :: records => do
    let fields ← texts number { record with fields := record.fields.map trimBytes }
    let rows ← rowsFrom headers (number + 1) records
    return if fields.all String.isEmpty then rows else rowOf headers fields :: rows

def parse (content : String) (delimiter : Char) : Except CsvError (List String × List Row) := do
  if Text.isBlankText content then throw .empty
  if 0xFF < delimiter.toNat then throw (.wideDelimiter delimiter)
  match records delimiter.toNat.toUInt8 (Utf8.encode content.toList) with
  | [] => throw .noHeaders
  | first :: records =>
    let headers ← texts 0 first
    if headers.all String.isEmpty then throw .noHeaders
    return (headers, ← rowsFrom headers 1 records)

end Csv

/-- A table with what was found out about the bytes that it was read from. -/
structure Table where
  encoding : String
  delimiter : Char
  headers : List String
  rows : List Row

/-- Reads the bytes of a file. There is no result where the encoding is beyond telling. -/
def readTable (bytes : List UInt8) : Option (Except CsvError Table) :=
  (Encoding.detect bytes).map fun encoding => do
    let content := Encoding.decode encoding bytes
    let delimiter := Csv.detectDelimiter content
    let (headers, rows) ← Csv.parse content delimiter
    return ⟨encoding, delimiter, headers, rows⟩

end RowRecipe
