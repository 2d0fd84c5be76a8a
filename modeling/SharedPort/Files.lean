import SharedPort.Text.Basic

/-! The files of a machine that a run may look at, as a value, with the working directory that paths start from. What is
not among them counts as missing. -/
namespace SharedPort

inductive FileEntry
  | file (content : Bytes)
  | directory
  deriving DecidableEq, Repr

/-- Entries by their places from the root; the directories on the way to an entry, or to the working directory, exist with
it. -/
structure FileTree where
  entries : List (List String × FileEntry)
  workingDirectory : List String := []
  deriving Repr

inductive FileFault
  | missing
  | notDirectory
  | isDirectory
  | notText
  deriving DecidableEq, Repr

def FileFault.message : FileFault → String
  | .missing => "No such file or directory (os error 2)"
  | .notDirectory => "Not a directory (os error 20)"
  | .isDirectory => "Is a directory (os error 21)"
  | .notText => "stream did not contain valid UTF-8"

namespace FileTree

def components (path : String) : List String :=
  ((path.toList.splitOn '/').filter fun part => part ≠ [] ∧ part ≠ ['.']).map String.ofList

def isAbsolute (path : String) : Bool := path.toList.head? = some '/'

def namesDirectory (path : String) : Bool :=
  path.toList.getLast? = some '/' || ['/', '.'].isSuffixOf path.toList

def place (t : FileTree) (path : String) : List String :=
  if isAbsolute path then components path else t.workingDirectory ++ components path

def stepInto (place : List String) (part : String) : List String :=
  if part = ".." then place.dropLast else place ++ [part]

def ofList (workingDirectory : List String) (files : List (String × FileEntry)) : FileTree :=
  let empty : FileTree := ⟨[], workingDirectory⟩
  { empty with entries := files.map fun (path, entry) => ((empty.place path).foldl stepInto [], entry) }

def ofPlace (place : List String) : String := "/" ++ "/".intercalate place

def steps : List String → List String → List String
  | here :: source, there :: target =>
      if here = there then steps source target
      else List.replicate (source.length + 1) ".." ++ there :: target
  | source, target => List.replicate source.length ".." ++ target

def relative (t : FileTree) (path : String) : String :=
  "/".intercalate (steps t.workingDirectory (t.place path))

def isDirectory (t : FileTree) (place : List String) : Bool :=
  place.isPrefixOf t.workingDirectory || t.entries.any (place.isPrefixOf ·.1)

def entryAt (t : FileTree) (place : List String) : Except FileFault FileEntry :=
  match t.entries.find? (·.1 = place) with
  | some (_, entry) => .ok entry
  | none => if place = [] ∨ t.isDirectory place then .ok .directory else .error .missing

def walk (t : FileTree) : List String → List String → Except FileFault FileEntry
  | place, [] => t.entryAt place
  | place, part :: rest => do
      match ← t.entryAt place with
      | .file _ => .error .notDirectory
      | .directory => t.walk (stepInto place part) rest

/-- What a path leads to. A path with a slash at its end leads to a directory only. -/
def find (t : FileTree) (path : String) : Except FileFault FileEntry := do
  if path = "" then .error .missing
  else
    match ← t.walk (if isAbsolute path then [] else t.workingDirectory) (components path) with
    | .file content => if namesDirectory path then .error .notDirectory else return .file content
    | .directory => return .directory

def exists? (t : FileTree) (path : String) : Bool := (t.find path).isOk

def isFile (t : FileTree) (path : String) : Bool :=
  match t.find path with
  | .ok (.file _) => true
  | _ => false

def read (t : FileTree) (path : String) : Except FileFault Bytes := do
  match ← t.find path with
  | .file content => return content
  | .directory => .error .isDirectory

end FileTree
end SharedPort
