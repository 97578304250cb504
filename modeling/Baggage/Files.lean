/-!
# Baggage.Files

**Files that are read as text**, and why one may not be. `Directory.read` reads from a directory
that is given by the names and texts of its files and has no directories in it. Of the directories
around it nothing is known but that the outermost one holds the empty device, `/dev/null`.
-/

namespace Baggage

/-- Why a file is not read. -/
inductive FileError where
  /-- There is no such file. -/
  | notFound
  /-- The path leads to a directory. -/
  | isDirectory
  /-- The path leads on behind a file. -/
  | notDirectory
  /-- The path or a name in it is too long. -/
  | nameTooLong
  /-- The file is not valid UTF-8. -/
  | notText
  /-- The system gives another reason. -/
  | other (reason : String)
  deriving DecidableEq, Repr

/-- The wording of a file error. -/
def FileError.message : FileError → String
  | notFound => "No such file or directory (os error 2)"
  | isDirectory => "Is a directory (os error 21)"
  | notDirectory => "Not a directory (os error 20)"
  | nameTooLong => "File name too long (os error 36)"
  | notText => "stream did not contain valid UTF-8"
  | other reason => reason

/-- How a path leads to a text. -/
abbrev Files := String → Except FileError String

/-- A directory of files, by name. -/
structure Directory where
  /-- The name and the text of each file. -/
  files : List (String × String)

namespace Directory

/-- The text of the file with a name. -/
def find? (d : Directory) (name : String) : Option String := d.files.lookup name

/-- The directory that a path has come to. -/
inductive Place where
  /-- The directory itself. -/
  | inside
  /-- A directory around it, of which nothing else is known. -/
  | around
  /-- The outermost directory. -/
  | outermost
  /-- The directory of the devices, in the outermost one. -/
  | devices
  deriving DecidableEq, Repr

/-- The directory above. There is none above the outermost one, which leads to itself. -/
def Place.above : Place → Place
  | inside => around
  | around => around
  | outermost => outermost
  | devices => outermost

/-- The steps of a path, but for those that stay where they are. -/
def steps (path : String) : List String :=
  (path.splitOn "/").filter fun step => step != "" && step != "."

/-- Whether a path ends behind its last step. -/
def endsBehind (path : String) : Bool := path.endsWith "/" || path.endsWith "/."

/-- The greatest number of bytes in a name. -/
def nameLimit : Nat := 255

/-- The greatest number of bytes in a path. -/
def pathLimit : Nat := 4095

/-- The text of the file with a name in one of the directories. -/
def fileAt? (d : Directory) : Place → (name : String) → Option String
  | .inside, name => d.find? name
  | .devices, name => if name == "null" then some "" else none
  | _, _ => none

/-- Follows steps to a file that nothing may stand behind, or that something stands behind. -/
def follow (d : Directory) (behind : Bool) : Place → List String → Except FileError String
  | _, [] => .error .isDirectory
  | place, step :: rest =>
    if step == ".." then d.follow behind place.above rest
    else if nameLimit < step.utf8ByteSize then .error .nameTooLong
    else if place = .outermost ∧ step = "dev" then d.follow behind .devices rest
    else
      match d.fileAt? place step with
      | none => .error .notFound
      | some text => if behind || !rest.isEmpty then .error .notDirectory else .ok text

/-- Reads a file along a path that starts at the directory, or at the outermost one around it. -/
def read (d : Directory) : Files := fun path =>
  if path.isEmpty then .error .notFound
  else if pathLimit < path.utf8ByteSize then .error .nameTooLong
  else d.follow (endsBehind path) (if path.startsWith "/" then .outermost else .inside) (steps path)

end Directory

end Baggage
