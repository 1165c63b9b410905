import Concord.Files.FileSystem
import Concord.Json.Reader
import Concord.Validation.Outcome
import Concord.Yaml.CoreSchema

namespace Concord.Validation

/-! Schemas and documents in files.

A schema is prepared with the other schemas of its directory.  Every document is held against it
by itself, and one that cannot be read is not valid.
-/

inductive ReadFailure where
  | unreadable (error : Files.ReadError)
  | malformedJson (error : Json.ReadError)
  | malformedYaml
  | unlistable (reason : String)

namespace ReadFailure

/-- What is said of text that holds no document in YAML. -/
def malformedYamlText : String := "<yaml>"

def message : ReadFailure → String
  | .unreadable error => "cannot read file: " ++ error.message
  | .malformedJson error => "invalid JSON: " ++ error.message
  | .malformedYaml => "invalid YAML: " ++ malformedYamlText
  | .unlistable reason => "cannot read schema directory: " ++ reason

end ReadFailure

def readJson (files : Files.FileSystem) (path : String) : Except ReadFailure Json := do
  let text ← (files.readText path).mapError .unreadable
  (Json.parse text).mapError .malformedJson

def isYaml (path : String) : Bool :=
  Files.extension? path == some "yaml" || Files.extension? path == some "yml"

/-- A document: YAML by its extension, and else JSON. -/
def readDocument (files : Files.FileSystem) (path : String) : Except ReadFailure Json :=
  if isYaml path then do
    let text ← (files.readText path).mapError .unreadable
    match (Yaml.Node.ofText? text).bind Yaml.Node.toJson? with
    | some document => .ok document
    | none => .error .malformedYaml
  else readJson files path

inductive SetupError where
  | unreadable (path : String) (failure : ReadFailure)
  | invalid

namespace SetupError

/-- What is said of a schema that is none, or refers to what cannot be found. -/
def invalidSchema : String := "<schema>"

def message : SetupError → String
  | .unreadable path failure => "schema load error for '" ++ path ++ "': " ++ failure.message
  | .invalid => "validator build error: " ++ invalidSchema

end SetupError

/-! The other schemas of a directory. -/

def directoryOf (path : String) : String :=
  match Files.parent? path with
  | none | some "" => "."
  | some directory => directory

def ownName? (document : Json) : Option String := (document.get? "$id").bind Json.string?

/-- A document can be found by the name that it gives itself and by the name of its file. -/
def register (siblings : Siblings) (path : String) (document : Json) : Siblings :=
  let siblings :=
    match ownName? document with
    | some name => siblings.insert name document
    | none => siblings
  match Files.fileName? path with
  | some name => siblings.insert name document
  | none => siblings

/-- Adds what stands at a path, if it is a schema other than the one at hand. -/
def registerFile (files : Files.FileSystem) (schemaPath : String) (siblings : Siblings)
    (path : String) : Siblings :=
  if Files.same path schemaPath || Files.extension? path != some "json" then siblings
  else
    match readJson files path with
    | .ok document => register siblings path document
    | .error _ => siblings

def siblingsOf (files : Files.FileSystem) (schemaPath : String) : Siblings :=
  let directory := directoryOf schemaPath
  ((files.names? directory).getD []).foldl
    (fun siblings name => registerFile files schemaPath siblings (Files.join directory name))
    .empty

def Validator.ofJson (schema : Json) : Except SetupError Validator :=
  match Validator.ofSchema? .empty schema with
  | some validator => .ok validator
  | none => .error .invalid

def Validator.ofFile (files : Files.FileSystem) (path : String) :
    Except SetupError Validator := do
  let schema ← (readJson files path).mapError (.unreadable path)
  let directory := directoryOf path
  if let some reason := files.listingFailure? directory then
    .error (.unreadable directory (.unlistable reason))
  match Validator.ofSchema? (siblingsOf files path) schema with
  | some validator => .ok validator
  | none => .error .invalid

structure LoadError where
  name : String
  failure : ReadFailure

def LoadError.message (error : LoadError) : String :=
  "document load error for '" ++ error.name ++ "': " ++ error.failure.message

/-- How a text that comes from no file is spoken of. -/
def inlineName : String := "<string>"

def Validator.checkText (validator : Validator) (text : String) :
    Except LoadError (List Finding) := do
  let document ← (Json.parse text).mapError (⟨inlineName, .malformedJson ·⟩)
  return validator.findings document

def Validator.checkFile (validator : Validator) (files : Files.FileSystem) (path : String) :
    Except LoadError (List Finding) := do
  let document ← (readDocument files path).mapError (⟨path, ·⟩)
  return validator.findings document

structure FileResult where
  file : String
  outcome : Except LoadError (List Finding)

namespace FileResult

def of (validator : Validator) (files : Files.FileSystem) (path : String) : FileResult :=
  ⟨path, validator.checkFile files path⟩

def findings (result : FileResult) : List Finding :=
  match result.outcome with
  | .ok findings => findings
  | .error _ => []

def valid (result : FileResult) : Bool :=
  match result.outcome with
  | .ok findings => findings.isEmpty
  | .error _ => false

def toJson (result : FileResult) : Json :=
  .object ([("file", .string result.file), ("valid", .bool result.valid),
    ("errors", .array (result.findings.map Finding.toJson))] ++
      match result.outcome with
      | .ok _ => []
      | .error error => [("load_error", .string error.message)])

end FileResult

end Concord.Validation
