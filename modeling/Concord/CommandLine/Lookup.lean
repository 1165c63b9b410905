import Concord.CommandLine.Outcome

namespace Concord.CommandLine

/-! What a command looks at.

Whoever runs a command gathers this before, so that the command itself is a function of what was
found.
-/

/-- The places where a path may lead that is given from a base directory. -/
def placesOf (baseDir path : String) : List String := [Files.join baseDir path, path]

def Invocation.paths (invocation : Invocation) : List String :=
  let sources := Representation.all.map (Sources.path invocation.baseDir)
  match invocation.command with
  | .compare _ =>
      sources ++ ((invocation.config?.map (placesOf invocation.baseDir)).getD [])
  | .lint _ => sources
  | .validate documents schema? _ =>
      sources ++ documents ++ (schema?.map (placesOf invocation.baseDir)).getD []

/-- The directory beside whose files a schema is read, if the command reads one. -/
def Invocation.schemaDirectory? (invocation : Invocation) (files : Files.FileSystem) :
    Option (String × String) :=
  match invocation.command with
  | .validate _ schema? _ =>
      let path := schemaPath files invocation.baseDir schema?
      some (path, Validation.directoryOf path)
  | _ => none

/-- The names that the references in a text end in, if it holds a schema. -/
def referredNames (text : String) : List String :=
  match Json.parse text with
  | .error _ => []
  | .ok schema =>
      let schema := schema.normal
      let found := Validation.sites (Validation.Validator.baseOf schema) schema
      (found.flatMap fun site => site.references?.getD []).map fun target =>
        Validation.Siblings.lastPart target.withoutFragment.toText

end Concord.CommandLine
