import RowRecipe.Text.Pieces

/-!
# Folders

A folder holds files by their paths. A path is followed name by name, and each name but the last
must be a folder. Folders inside are there as long as there are files in them, and nothing makes new
ones.
-/
namespace RowRecipe

inductive FileError where
  | missing
  | folderFound
  | fileFound
  deriving Repr, DecidableEq

def FileError.message : FileError → String
  | .missing => "No such file or directory (os error 2)"
  | .folderFound => "Is a directory (os error 21)"
  | .fileFound => "Not a directory (os error 20)"

structure Folder where
  files : List (List String × List UInt8)

namespace Folder

def names (path : String) : List String :=
  Text.split "/" path

def file? (folder : Folder) (place : List String) : Option (List UInt8) :=
  folder.files.lookup place

/-- Whether there is a folder at a place: the folder itself, or one with files in it. -/
def hasFolder (folder : Folder) (place : List String) : Bool :=
  place.isEmpty || folder.files.any fun (path, _) =>
    place.isPrefixOf path && place.length < path.length

def follow (folder : Folder) (place : List String) :
    List String → Except FileError (List String)
  | [] => .ok place
  | name :: names =>
    if (folder.file? place).isSome then .error .fileFound
    else if !folder.hasFolder place then .error .missing
    else if name = "" ∨ name = "." then folder.follow place names
    else if name = ".." then folder.follow place.dropLast names
    else folder.follow (place ++ [name]) names

def resolve (folder : Folder) (path : String) : Except FileError (List String) :=
  if path = "" then .error .missing else folder.follow [] (names path)

def read (folder : Folder) (path : String) : Except FileError (List UInt8) := do
  let place ← folder.resolve path
  match folder.file? place with
  | some bytes => return bytes
  | none => throw (if folder.hasFolder place then .folderFound else .missing)

/-- The place where a file can be written. A path that ends in a slash is one of a folder. -/
def writable (folder : Folder) (path : String) : Except FileError (List String) := do
  if path = "" then throw .missing
  let names := names path
  if names.getLast? = some "" then
    let place ← folder.follow [] names.dropLast
    throw (if (folder.file? place).isSome then .fileFound else .folderFound)
  else
    let place ← folder.follow [] names
    if folder.hasFolder place then throw .folderFound else return place

def refusal (folder : Folder) (path : String) : Option String :=
  match folder.writable path with
  | .ok _ => none
  | .error problem => some problem.message

end Folder

end RowRecipe
