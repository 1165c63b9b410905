import Concord.Table

namespace Concord

/-! The four formats that describe a resume schema, in the order in which they are reported. -/

inductive Representation where
  | jsonSchema
  | jsonLdContext
  | metaSchema
  | xsd
deriving DecidableEq, Repr

namespace Representation

def all : List Representation := [.jsonSchema, .jsonLdContext, .metaSchema, .xsd]

def id : Representation → String
  | .jsonSchema => "json_schema"
  | .jsonLdContext => "json_ld_context"
  | .metaSchema => "meta_schema"
  | .xsd => "xsd"

/-- Where the document stands below the directory of a schema version. -/
def relativePath : Representation → String
  | .jsonSchema => "schema.json"
  | .jsonLdContext => "context.jsonld"
  | .metaSchema => "meta-schema.json"
  | .xsd => "xml/1.0/schema-resume.xsd"

def fileName : Representation → String
  | .jsonSchema => "schema.json"
  | .jsonLdContext => "context.jsonld"
  | .metaSchema => "meta-schema.json"
  | .xsd => "schema-resume.xsd"

/-- The heading of its column in a table. -/
def columnLabel : Representation → String
  | .jsonSchema => "schema.json"
  | .jsonLdContext => "context.jsonld"
  | .metaSchema => "meta-schema"
  | .xsd => "XSD"

/-- Whether its fields are qualified by their section; a context names fields without one. -/
def isQualified (representation : Representation) : Bool := representation ≠ .jsonLdContext

def index : Representation → Nat
  | .jsonSchema => 0
  | .jsonLdContext => 1
  | .metaSchema => 2
  | .xsd => 3

end Representation

structure UnknownRepresentation where
  name : String

def UnknownRepresentation.message (error : UnknownRepresentation) : String :=
  "unknown variant `" ++ error.name ++ "`, expected one of " ++
    ", ".intercalate (Representation.all.map fun known => "`" ++ known.id ++ "`")

def Representation.ofId (name : String) : Except UnknownRepresentation Representation :=
  match Representation.all.find? (·.id = name) with
  | some known => .ok known
  | none => .error ⟨name⟩

end Concord
