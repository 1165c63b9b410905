import Concord.CommandLine.Lookup

/-! The program: finds out what a command looks at, has the command done, and prints what comes of
it.

Directories are not listed.  The files beside a schema are those whose names the references in it
end in, and in the schemas that are found so.
-/

namespace Concord.CommandLine

/-- The number of the failure to read from a directory. -/
def directoryFailure : UInt32 := 21

def entryAt (path : String) : IO Files.Entry := do
  try
    return .file (← IO.FS.readBinFile path)
  catch
    | .inappropriateType _ number _ =>
        return if number = directoryFailure then .directory [] else .blocked
    | .permissionDenied _ number reason =>
        return .unreadable (reason ++ " (os error " ++ toString number ++ ")")
    | _ => return .missing

/-- The files of a directory that are referred to, with the names of those that are there. -/
partial def neighbours (directory : String) (seen : List String)
    (found : List (String × Files.Entry)) :
    List String → IO (List String × List (String × Files.Entry))
  | [] => return ([], found)
  | name :: pending => do
      if name.isEmpty || seen.contains name then neighbours directory seen found pending
      else
        let path := Files.join directory name
        match ← entryAt path with
        | .file contents =>
            let further := ((String.fromUTF8? contents).map referredNames).getD []
            let found := (path, .file contents) :: found
            let (names, found) ← neighbours directory (name :: seen) found (further ++ pending)
            return (name :: names, found)
        | _ => neighbours directory (name :: seen) found pending

/-- What an invocation looks at. -/
def gather (invocation : Invocation) : IO Files.FileSystem := do
  let entries ← invocation.paths.mapM fun path => do return (path, ← entryAt path)
  let files := Files.FileSystem.ofEntries entries
  match invocation.schemaDirectory? files with
  | none => return files
  | some (schemaPath, directory) =>
      let text := (files.readText schemaPath).toOption.getD ""
      let (names, found) ← neighbours directory [] [] (referredNames text)
      return .ofEntries ((directory, .directory names) :: found ++ entries)

end Concord.CommandLine

def main (arguments : List String) : IO UInt32 := do
  let outcome ← match Concord.CommandLine.Request.ofArguments? arguments with
    | some (.perform invocation) => do
        pure (invocation.outcome (← Concord.CommandLine.gather invocation))
    | some question => pure (question.outcome fun _ => .missing)
    | none => pure (.error .misuse)
  if let .error failure := outcome then IO.eprintln failure.message
  IO.print outcome.output
  return outcome.exitCode.toUInt32
