import Concord.Context
import Concord.Json.Equality
import Concord.Json.Printer
import Concord.Lint.Finding
import Concord.Regex.Pattern
import Concord.Sources
import Concord.Xsd.Document

namespace Concord.Lint

/-! The checks on each document, in the order in which they are reported.

A run checks the documents one after the other, each by itself.
-/

private def error (text : String) : Remark := ⟨.error, text⟩
private def warning (text : String) : Remark := ⟨.warning, text⟩
private def info (text : String) : Remark := ⟨.info, text⟩

private def sayUnless (present : Bool) (text : String) : List Remark :=
  if present then [] else [warning text]

@[simp] theorem severity_error (text : String) : (error text).severity = .error := rfl

@[simp] theorem severity_warning (text : String) : (warning text).severity = .warning := rfl

@[simp] theorem severity_info (text : String) : (info text).severity = .info := rfl

theorem severity_of_mem_sayUnless {present : Bool} {text : String} {remark : Remark}
    (member : remark ∈ sayUnless present text) : remark.severity = .warning := by
  cases present with
  | true => cases member
  | false => exact List.mem_singleton.mp member ▸ severity_warning text

def requiredKeys : List String := ["$schema", "$id", "properties"]

def checkRequiredKeys (document : Json) : List Remark :=
  requiredKeys.map fun key =>
    if (document.get? key).isSome then info ("has required field: " ++ key)
    else error ("missing required field: " ++ key)

def recommendedBasics : List String := ["name", "email", "phone"]

/-- The section on the person, which should name its usual fields. -/
def checkBasics (basics : Json) : List Remark :=
  match basics.objectAt? "properties" with
  | some fields =>
      info ("basics section has " ++ toString fields.size ++ " fields") ::
        recommendedBasics.flatMap fun field =>
          sayUnless (fields.contains field) ("basics missing recommended field: " ++ field)
  | none => []

def checkSections (document : Json) : List Remark :=
  match document.objectAt? "properties" with
  | some properties =>
      info ("contains " ++ toString properties.size ++ " top-level properties") ::
        match properties.get? "basics" with
        | some basics => checkBasics basics
        | none => [warning "missing 'basics' section"]
  | none => []

/-- What is said of a pattern that cannot be read. -/
def unreadablePattern : String := "<regex>"

def datePattern? (definitions : Table String Json) : Option String :=
  ((definitions.get? "iso8601").bind (·.get? "pattern")).bind Json.string?

def checkDatePattern (pattern : String) : Remark :=
  if Regex.isPattern pattern then info "iso8601 pattern is a valid regex"
  else error ("invalid iso8601 regex pattern: " ++ unreadablePattern)

def checkDefinitions (document : Json) : List Remark :=
  match document.objectAt? "definitions" with
  | some definitions =>
      info ("contains " ++ toString definitions.size ++ " definitions") ::
        ((datePattern? definitions).map checkDatePattern).toList
  | none => [warning "no definitions section found"]

def checkSchema (document : Json) : List Remark :=
  checkRequiredKeys document ++ checkSections document ++ checkDefinitions document

def requiredNamespaces : List String := ["schema", "xsd"]

def checkNamespaces (context : Table String Json) : List Remark :=
  requiredNamespaces.map fun name =>
    if context.contains name then info ("has namespace: " ++ name)
    else warning ("missing namespace: " ++ name)

def isUrl (value : Json) : Bool :=
  (value.string?.map fun text => text.startsWith "http://" || text.startsWith "https://").getD false

def checkVocabulary (context : Table String Json) : List Remark :=
  match context.get? "@vocab" with
  | some value =>
      if isUrl value then [info "@vocab is a URL"]
      else [warning ("@vocab should be a URL: " ++ value.compact)]
  | none => []

/-- The beginnings of the identifiers that fields should be mapped to. -/
def standardBeginnings : List String := ["schema:", "xsd:", "rdf:", "rdfs:"]

def isForeign (definition : Json) : Bool :=
  match (definition.get? "@id").bind Json.string? with
  | some id => !standardBeginnings.any fun beginning => id.startsWith beginning
  | none => false

def foreignShown : Nat := 5

def checkIdentifiers (context : Table String Json) : List Remark :=
  let foreign := (context.entries.filter fun entry => isForeign entry.2).map (·.1)
  if foreign.isEmpty then []
  else [warning ("fields with non-standard @id: " ++
    ", ".intercalate (foreign.take foreignShown))]

def fieldCount (context : Table String Json) : Nat :=
  (context.keys.filter Context.isFieldKey).length

def checkMappings (context : Table String Json) : List Remark :=
  [info "has '@context' field"] ++ checkNamespaces context ++ checkVocabulary context ++
    [info ("contains " ++ toString (fieldCount context) ++ " field mappings")] ++
    checkIdentifiers context

/-- A context that is only referred to is not looked at. -/
def checkContext (document : Json) : List Remark :=
  match document.get? "@context" with
  | some (.string remote) => [warning ("remote @context not inspected: " ++ remote)]
  | some (.object _) | some (.array _) => checkMappings (Context.merged document)
  | _ => [error "missing required '@context' field"]

/-- A meta-schema should be written in itself. -/
def checkSelfReference (document : Json) : List Remark :=
  match document.get? "$schema", document.get? "$id" with
  | some schema, some id =>
      if schema.identical id then [info "self-referential meta-schema"]
      else [warning "$schema and $id differ (not self-referential)"]
  | _, _ => []

def standardDefinitions : List String :=
  ["schemaArray", "nonNegativeInteger", "simpleTypes", "stringArray"]

def coreKeywords : List String := ["type", "properties", "items", "required", "enum", "pattern"]

/-- The number of members of an object of the document, and which of the expected ones it lacks. -/
def checkMembers (document : Json) (name counted missing : String) (expected : List String) :
    List Remark :=
  match document.objectAt? name with
  | some members =>
      info ("contains " ++ toString members.size ++ " " ++ counted) ::
        expected.flatMap fun key =>
          sayUnless (members.contains key) ("missing " ++ missing ++ ": " ++ key)
  | none => []

def checkMetaSchema (document : Json) : List Remark :=
  checkRequiredKeys document ++ checkSelfReference document ++
    checkMembers document "definitions" "definitions" "standard definition"
      standardDefinitions ++
    checkMembers document "properties" "property definitions" "JSON Schema keyword" coreKeywords

def checkRoot (document : Xsd.Document) : Remark :=
  if Xsd.isNamed document.root "schema" then info "root element is xs:schema"
  else error ("root element should be xs:schema, got " ++ document.root.render)

def checkTargetNamespace (document : Xsd.Document) : Remark :=
  match document.targetNamespace? with
  | some uri => info ("has targetNamespace: " ++ uri)
  | none => warning "missing targetNamespace"

def countTypes (document : Xsd.Document) : List Remark :=
  info ("contains " ++ toString document.complexTypes.length ++ " complexType definitions") ::
    if document.simpleTypeCount = 0 then []
    else [info ("contains " ++ toString document.simpleTypeCount ++ " simpleType definitions")]

def checkRootElements (document : Xsd.Document) : Remark :=
  if document.topLevelElements.isEmpty then warning "no root element defined"
  else info ("contains " ++ toString document.topLevelElements.length ++ " root element(s)")

def basicsType : String := "BasicsType"

def checkBasicsType (document : Xsd.Document) : Remark :=
  match document.type? basicsType with
  | some type => info (basicsType ++ " has " ++ toString type.elements.length ++ " elements")
  | none => warning (basicsType ++ " not found")

def knownTypePrefixes : List String := ["xs", "sr"]

def checkTypePrefix (declaration : Xsd.ElementDeclaration) : List Remark :=
  match declaration.typePrefix?, declaration.type? with
  | some qualifier, some type =>
      sayUnless (knownTypePrefixes.contains qualifier) ("unknown type prefix: " ++ type)
  | _, _ => []

def checkXsd (document : Xsd.Document) : List Remark :=
  [checkRoot document, checkTargetNamespace document] ++ countTypes document ++
    [checkRootElements document, checkBasicsType document] ++
    document.elements.flatMap checkTypePrefix

/-- The findings on one document: why it could not be loaded, or what its checks say. -/
def block (file : Representation) (format : String) (document : Except SourceIssue α)
    (check : α → List Remark) : List Finding :=
  match document with
  | .ok document =>
      (Remark.mk .info ("valid " ++ format ++ " syntax") :: check document).map (·.of file)
  | .error issue => [⟨file, .error, issue.message⟩]

def ofSources (sources : Sources) : Report :=
  ⟨block .jsonSchema "JSON" sources.jsonSchema checkSchema ++
    block .jsonLdContext "JSON" sources.context checkContext ++
    block .metaSchema "JSON" sources.metaSchema checkMetaSchema ++
    block .xsd "XML" sources.xsd checkXsd⟩

def run (files : Files.FileSystem) (baseDir : String) : Report := ofSources (.load files baseDir)

end Concord.Lint
