import Concord.Files.FileSystem
import Concord.Json.Reader
import Concord.SourceIssue
import Concord.Xml.Reader
import Concord.Xsd.Document

namespace Concord

/-! The documents of a schema version, each loaded on its own. -/

namespace Sources

def path (base : String) (representation : Representation) : String :=
  Files.join base representation.relativePath

def readText (files : Files.FileSystem) (base : String) (representation : Representation) :
    Except SourceIssue String :=
  let path := path base representation
  match files.readText path with
  | .ok text => .ok text
  | .error .notFound => .error (.fileNotFound representation path)
  | .error other => .error (.io representation path other.message)

def readJson (files : Files.FileSystem) (base : String) (representation : Representation) :
    Except SourceIssue Json := do
  let text ← readText files base representation
  (Json.parse text).mapError fun error =>
    .parseError representation (path base representation) error.message

/-- What is said of text that is no well-formed XML document. -/
def malformedXml : String := "<xml>"

def readXsd (files : Files.FileSystem) (base : String) : Except SourceIssue Xsd.Document := do
  let text ← readText files base .xsd
  match Xml.Element.ofText? text with
  | some root => .ok (.ofRoot root)
  | none => .error (.parseError .xsd (path base .xsd) malformedXml)

end Sources

structure Sources where
  jsonSchema : Except SourceIssue Json
  context : Except SourceIssue Json
  metaSchema : Except SourceIssue Json
  xsd : Except SourceIssue Xsd.Document

namespace Sources

def load (files : Files.FileSystem) (base : String) : Sources where
  jsonSchema := readJson files base .jsonSchema
  context := readJson files base .jsonLdContext
  metaSchema := readJson files base .metaSchema
  xsd := readXsd files base

def failure? (document : Except SourceIssue α) : Option SourceIssue :=
  match document with
  | .ok _ => none
  | .error issue => some issue

def failureOf? (sources : Sources) : Representation → Option SourceIssue
  | .jsonSchema => failure? sources.jsonSchema
  | .jsonLdContext => failure? sources.context
  | .metaSchema => failure? sources.metaSchema
  | .xsd => failure? sources.xsd

def failures (sources : Sources) : List SourceIssue :=
  Representation.all.filterMap sources.failureOf?

def isLoaded (sources : Sources) (representation : Representation) : Bool :=
  (sources.failureOf? representation).isNone

end Sources

end Concord
