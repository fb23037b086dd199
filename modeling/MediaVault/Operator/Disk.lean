/-
The files that commands read and write: names with slashes between them lead
from the working directory, or from the root, through directories to a file.
What is written changes one file, and nothing else.
-/
import MediaVault.Bytes

namespace MediaVault

/-- Why a file cannot be read or written. -/
inductive FileFault where
  | missing
  | notDirectory
  | directory
  | nameTooLong
  | nameWithNull
  | notText
  deriving DecidableEq, Repr

/-- The wording of a fault. -/
def FileFault.message : FileFault → String
  | missing => "No such file or directory (os error 2)"
  | notDirectory => "Not a directory (os error 20)"
  | directory => "Is a directory (os error 21)"
  | nameTooLong => "File name too long (os error 36)"
  | nameWithNull => "file name contained an unexpected NUL byte"
  | notText => "stream did not contain valid UTF-8"

/-- A place: the names that lead to it from the working directory, without detours. Leading pairs of
points lead out of the working directory, and a leading slash stands for the root. -/
abbrev Location := List String

/-- The files there are, and directories beside those that files are in. -/
structure Disk where
  files : List (Location × Bytes)
  directories : List Location
  deriving DecidableEq, Repr

/-- What there is at a place. -/
inductive Node where
  | file (content : Bytes)
  | directory
  | nothing

namespace Location

/-- The names in a path. A slash at the end stands for the directory before it. -/
def names (path : String) : List String :=
  let parts := (path.splitOn "/").filter (· ≠ "")
  if path.endsWith "/" ∧ parts ≠ [] then parts ++ ["."] else parts

/-- Where a path starts. -/
def start (path : String) : Location := if path.startsWith "/" then ["/"] else []

/-- The place above. -/
def above (place : Location) : Location :=
  match place.getLast? with
  | none | some ".." => place ++ [".."]
  | some "/" => place
  | some _ => place.dropLast

/-- The place that a name leads to. -/
def step (place : Location) (name : String) : Location :=
  if name = "." then place else if name = ".." then place.above else place ++ [name]

/-- The place that a path leads to if all directories on its way exist. -/
def ofPath (path : String) : Location := (names path).foldl step (start path)

end Location

namespace Disk

/-- The greatest length of a name. -/
def maxName : Nat := 255

/-- The length that a path stays below. -/
def pathLimit : Nat := 4096

/-- Whether a place is a directory. -/
def isDirectory (d : Disk) (place : Location) : Bool :=
  place = ["/"] || place.all (· = "..") || d.directories.any (place.isPrefixOf ·)
    || d.files.any fun (file, _) => place.isPrefixOf file && place ≠ file

/-- What there is at a place. -/
def nodeAt (d : Disk) (place : Location) : Node :=
  match d.files.find? (·.1 = place) with
  | some (_, content) => .file content
  | none => if d.isDirectory place then .directory else .nothing

/-- The place that names lead to, each from a directory. -/
def follow (d : Disk) (place : Location) : List String → Except FileFault Location
  | [] => .ok place
  | name :: rest =>
    match d.nodeAt place with
    | .nothing => .error .missing
    | .file _ => .error .notDirectory
    | .directory =>
      if maxName < name.utf8ByteSize then .error .nameTooLong else d.follow (place.step name) rest

/-- The names in a path that can be one. -/
def names (path : String) : Except FileFault (List String) :=
  if path.toList.contains '\x00' then .error .nameWithNull
  else if path = "" then .error .missing
  else if pathLimit ≤ path.utf8ByteSize then .error .nameTooLong
  else .ok (Location.names path)

/-- The place of a path. -/
def locate (d : Disk) (path : String) : Except FileFault Location := do
  d.follow (Location.start path) (← names path)

/-- The content of the file at a path. -/
def read (d : Disk) (path : String) : Except FileFault Bytes := do
  match d.nodeAt (← d.locate path) with
  | .file content => return content
  | .directory => throw .directory
  | .nothing => throw .missing

/-- The text of the file at a path. -/
def readText (d : Disk) (path : String) : Except FileFault String := do
  match (← d.read path).text? with
  | some s => return s
  | none => throw .notText

/-- The files with one of them set. -/
def setFile (d : Disk) (place : Location) (content : Bytes) : Disk :=
  { d with files := d.files.filter (·.1 ≠ place) ++ [(place, content)] }

/-- The place at which a path creates or replaces a file. A name with a slash after it asks for a
directory, whatever there is of that name. -/
def target (d : Disk) (path : String) : Except FileFault Location := do
  let names ← names path
  let start := Location.start path
  if path.endsWith "/" then
    if let name :: above := names.dropLast.reverse then
      if name ≠ "." ∧ name ≠ ".." then
        let _ ← d.follow start (above.reverse ++ ["."])
        throw .directory
  let place ← d.follow start names
  match d.nodeAt place with
  | .directory => throw .directory
  | _ => return place

/-- The files after some content was written to a path. -/
def write (d : Disk) (path : String) (content : Bytes) : Except FileFault Disk := do
  return d.setFile (← d.target path) content

/-- The files given by their paths. -/
def ofList (files : List (String × Bytes)) : Disk :=
  { files := files.map fun (path, content) => (Location.ofPath path, content), directories := [] }

/-- The content of a file, if there is one at the path. -/
def content? (d : Disk) (path : String) : Option Bytes := (d.read path).toOption

end Disk

end MediaVault
