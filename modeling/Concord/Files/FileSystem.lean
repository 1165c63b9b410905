import Concord.Files.Path

namespace Concord.Files

/-! What can be read: for every path, what stands there. -/

inductive Entry where
  | missing
  /-- On the way there is a file where a directory is needed. -/
  | blocked
  /-- What stands there, if anything, cannot be reached, and why. -/
  | unreachable (reason : String)
  /-- A file that is there but gives no contents, and why. -/
  | unreadable (reason : String)
  | file (contents : ByteArray)
  /-- A directory with the names in it, in the order in which they are listed. -/
  | directory (names : List String)
  /-- A directory whose names cannot be listed, and why. -/
  | unlistable (reason : String)

abbrev FileSystem := String → Entry

inductive ReadError where
  | notFound
  | notADirectory
  | isADirectory
  | refused (reason : String)
  | notText
deriving DecidableEq, Repr

def ReadError.message : ReadError → String
  | .notFound => "No such file or directory (os error 2)"
  | .notADirectory => "Not a directory (os error 20)"
  | .isADirectory => "Is a directory (os error 21)"
  | .refused reason => reason
  | .notText => "stream did not contain valid UTF-8"

namespace FileSystem

def readText (files : FileSystem) (path : String) : Except ReadError String :=
  match files path with
  | .missing => .error .notFound
  | .blocked => .error .notADirectory
  | .directory _ | .unlistable _ => .error .isADirectory
  | .unreachable reason | .unreadable reason => .error (.refused reason)
  | .file contents =>
      match String.fromUTF8? contents with
      | some text => .ok text
      | none => .error .notText

def exists? (files : FileSystem) (path : String) : Bool :=
  match files path with
  | .missing | .blocked | .unreachable _ => false
  | .unreadable _ | .file _ | .directory _ | .unlistable _ => true

def names? (files : FileSystem) (path : String) : Option (List String) :=
  match files path with
  | .directory names => some names
  | _ => none

def listingFailure? (files : FileSystem) (path : String) : Option String :=
  match files path with
  | .unlistable reason => some reason
  | _ => none

/-- The path below a base directory if something stands there, and else as it is. -/
def resolve (files : FileSystem) (path base : String) : String :=
  if isAbsolute path then path
  else if files.exists? (join base path) then join base path
  else path

/-- What was found at some paths; elsewhere there is nothing. -/
def ofEntries (entries : List (String × Entry)) : FileSystem := fun path =>
  (entries.lookup path).getD .missing

end FileSystem

end Concord.Files
