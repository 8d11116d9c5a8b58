/-
Files by their paths: what stands at a path, and what writing there does. Only files are listed;
folders are the places where listed files stand, and the folder that paths begin in.
-/
import Rollmark.Text.Scan

namespace Rollmark

/-- What stands at a path. -/
inductive FileState where
  | bytes (content : List UInt8) (writable : Bool)
  /-- Nothing, and whether a file can be made there. -/
  | missing (creatable : Bool)
  /-- Something that is no readable file, such as a folder. -/
  | unreadable
deriving DecidableEq

/-- A path as the names on its way, without those that do not lead anywhere else. -/
abbrev FilePlace := List String

/-- The names of a path between its slashes. -/
def pathNames (path : String) : List String := (Text.split '/' path.toList).map String.ofList

/-- The place that a path leads to. An absolute path begins with a slash as its first name. -/
def FilePlace.ofPath (path : String) : FilePlace :=
  let names := (pathNames path).filter fun name => name ≠ "" && name ≠ "."
  if (path.toList.head?).any (· == '/') then "/" :: names else names

/-- A path that can only lead to a folder. -/
def leadsToFolder (path : String) : Bool :=
  match (pathNames path).getLast? with
  | some name => name = "" || name = "." || name = ".."
  | none => true

/-- The extension of the file that a path names: what stands behind the last dot of its name, unless
the name has no other dot and begins with it. -/
def fileExtension? (path : String) : Option String :=
  match (FilePlace.ofPath path).getLast? with
  | none => none
  | some name =>
    if name = ".." then none
    else
      match (Text.split '.' name.toList).reverse with
      | ext :: before :: more =>
        if before.isEmpty && more.isEmpty then none else some (String.ofList ext)
      | _ => none

/-- The files that a program can reach. -/
structure Files where
  entries : List (FilePlace × FileState)
deriving DecidableEq

namespace Files

/-- Writable files with the given contents. -/
def ofContents (contents : List (String × List UInt8)) : Files :=
  ⟨contents.map fun (path, content) => (.ofPath path, .bytes content true)⟩

/-- Whether a listed file stands below a place. -/
def isFolder (files : Files) (place : FilePlace) : Bool :=
  place.all (· == "..")
    || files.entries.any fun (other, state) =>
      place.isPrefixOf other && place != other && state matches .bytes ..

/-- What stands at a place that is not listed. A path through a file cannot be followed. -/
def unlisted (files : Files) (place : FilePlace) : FileState :=
  let parent := place.dropLast
  if files.isFolder place then .unreadable
  else if files.entries.any fun (other, state) =>
      other.isPrefixOf parent && !other.isEmpty && state matches .bytes .. then .unreadable
  else .missing (files.isFolder parent)

/-- What stands at a path. No file is found behind a slash at the end. -/
def state (files : Files) (path : String) : FileState :=
  let found := (files.entries.lookup (.ofPath path)).getD (files.unlisted (.ofPath path))
  match found with
  | .bytes content writable =>
    if leadsToFolder path then .unreadable else .bytes content writable
  | .missing creatable => .missing (creatable && !leadsToFolder path)
  | .unreadable => .unreadable

/-- The content of a file. -/
def content? (files : Files) (path : String) : Option (List UInt8) :=
  match files.state path with
  | .bytes content _ => some content
  | _ => none

/-- Whether a file can be written at a path. -/
def canWrite (files : Files) (path : String) : Bool :=
  match files.state path with
  | .bytes _ writable => writable
  | .missing creatable => creatable
  | .unreadable => false

/-- Puts a state at a place, instead of the one that is listed. -/
def put (place : FilePlace) (state : FileState) :
    List (FilePlace × FileState) → List (FilePlace × FileState)
  | [] => [(place, state)]
  | (other, old) :: rest =>
    if other = place then (other, state) :: rest else (other, old) :: put place state rest

/-- Writes a file, if that is possible. -/
def write? (files : Files) (path : String) (content : List UInt8) : Option Files :=
  if files.canWrite path then
    some ⟨put (.ofPath path) (.bytes content true) files.entries⟩
  else none

/-- The files with what stands at a path. -/
def withState (files : Files) (path : String) (state : FileState) : Files :=
  ⟨put (.ofPath path) state files.entries⟩

end Files

end Rollmark
