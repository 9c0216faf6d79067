import ServiceBinding.Text.Parts

/-!
# Files

A path is a text of names separated by slashes. Opening a file says what is wrong with its path,
given which files and directories there are.
-/

namespace ServiceBinding

/-- Why a file cannot be opened or read. -/
inductive FileError
  | nulCharacter
  | missing
  | notDirectory
  | isDirectory
  | nameTooLong
  | notUnicode
  deriving DecidableEq, Inhabited

def FileError.message : FileError → String
  | .nulCharacter => "file name contained an unexpected NUL byte"
  | .missing => "No such file or directory (os error 2)"
  | .notDirectory => "Not a directory (os error 20)"
  | .isDirectory => "Is a directory (os error 21)"
  | .nameTooLong => "File name too long (os error 36)"
  | .notUnicode => "stream did not contain valid UTF-8"

namespace Path

/-- The names in a path, in their order. -/
def names (path : String) : List String := (Text.parts '/' path.toList).map String.ofList

/-- The name of the file that a path leads to. A point stands for the directory before it, and two
points have no name. -/
def fileName? (path : String) : Option String :=
  ((names path).filter (· ≠ ".")).getLast?.filter (· ≠ "..")

/-- What follows the last point of the file name; a point at its start does not count. -/
def extension? (path : String) : Option String := do
  let cs := (← fileName? path).toList
  let after := (cs.reverse.takeWhile (· ≠ '.')).reverse
  if after.length + 1 < cs.length then some (String.ofList after) else none

/-- A path has fewer bytes. -/
def maxBytes : Nat := 4096

/-- A name in a path has at most so many bytes. -/
def maxNameBytes : Nat := 255

/-- Whether a path starts at the root. -/
def isAbsolute (path : String) : Bool := path.toList.head? = some '/'

/-- Whether a path can only lead to a directory. -/
def endsInSlash (path : String) : Bool := path.toList.getLast? = some '/'

/-- What is wrong with a path wherever it leads. -/
def fault? (path : String) : Option FileError :=
  if path.toList.contains (Char.ofNat 0) then some .nulCharacter
  else if path.isEmpty then some .missing
  else if maxBytes ≤ path.utf8ByteSize then some .nameTooLong
  else none

end Path

/-- What stands under a name. -/
inductive FileKind
  | file | directory
  deriving DecidableEq, Inhabited

/-- A file system: what it holds, and the directory from which paths start. Places are the names on
the way from the root. -/
structure FileSystem where
  current : List String := []
  kind? : List String → Option FileKind

namespace FileSystem

variable (files : FileSystem)

/-- The place one name further. The name after it needs a directory there. -/
def enter (place : List String) (name : String) : Except FileError (List String) :=
  if name = "." then .ok place
  else if name = ".." then .ok place.dropLast
  else if Path.maxNameBytes < name.utf8ByteSize then .error .nameTooLong
  else
    match files.kind? (place ++ [name]) with
    | none => .error .missing
    | some .file => .error .notDirectory
    | some .directory => .ok (place ++ [name])

/-- The place at which a path starts. -/
def startOf (path : String) : List String := if Path.isAbsolute path then [] else files.current

/-- Opens a file for appending; a missing file is made. -/
def append (path : String) : Except FileError Unit := do
  if let some e := Path.fault? path then throw e
  match (Path.names path).reverse with
  | [] => throw .isDirectory
  | last :: before =>
    let place ← before.reverse.foldlM files.enter (files.startOf path)
    if last = "." || last = ".." || Path.endsInSlash path then throw .isDirectory
    if files.kind? (place ++ [last]) = some .directory then throw .isDirectory
    if Path.maxNameBytes < last.utf8ByteSize then throw .nameTooLong

/-- Opens a file for reading. -/
def read (path : String) : Except FileError Unit := do
  if let some e := Path.fault? path then throw e
  match (Path.names path).reverse with
  | [] => throw .isDirectory
  | last :: before =>
    let place ← before.reverse.foldlM files.enter (files.startOf path)
    match files.enter place last with
    | .ok _ => throw .isDirectory
    | .error .notDirectory => if Path.endsInSlash path then throw .notDirectory
    | .error e => throw e

end FileSystem

end ServiceBinding
