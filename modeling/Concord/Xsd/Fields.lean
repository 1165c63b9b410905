import Concord.Inventories
import Concord.SourceIssue
import Concord.Xsd.Document

namespace Concord.Xsd

/-! The fields that an XSD declares: the named elements of each complex type, below the section of a
resume that the type describes.
-/

inductive Section where
  | root
  | below (path : FieldPath)
deriving DecidableEq

namespace Section

/-- The only way to write the root; the empty text is no section. -/
def rootName : String := "root"

def ofString (text : String) : Except PathError Section :=
  if text = rootName then .ok .root
  else do
    let path ← FieldPath.parse text
    if path.segments.isEmpty then .error .emptySegment else .ok (.below path)

def toPath : Section → FieldPath
  | .root => .root
  | .below path => path

end Section

structure TypeSections where
  table : Table String Section

namespace TypeSections

/-- Every section must be readable; of two entries for a type the later one holds. -/
def ofEntries (entries : List (String × String)) : Except PathError TypeSections := do
  let sections ← entries.mapM fun (type, text) => return (type, ← Section.ofString text)
  return ⟨Table.ofList sections⟩

def standardEntries : List (String × String) := [
  ("BasicsType", "basics"),
  ("LocationType", "basics.location"),
  ("WorkType", "work[]"),
  ("WorkLocationAddressType", "work[].location"),
  ("ContactDetailsType", "work[].contactDetails"),
  ("VolunteerType", "volunteer[]"),
  ("EducationType", "education[]"),
  ("AwardType", "awards[]"),
  ("CertificateType", "certificates[]"),
  ("PublicationType", "publications[]"),
  ("SkillType", "skills[]"),
  ("ToolType", "tools[]"),
  ("LanguageType", "languages[]"),
  ("InterestType", "interests[]"),
  ("ReferenceType", "references[]"),
  ("ProjectType", "projects[]"),
  ("MetaType", "meta")]

def standard : TypeSections :=
  ⟨Table.ofList (standardEntries.filterMap fun (type, text) =>
    (Section.ofString text).toOption.map fun place => (type, place))⟩

def standardWith (entries : List (String × String)) : Except PathError TypeSections := do
  let extra ← ofEntries entries
  return ⟨standard.table.insertAll extra.table.entries⟩

def place? (sections : TypeSections) (type : String) : Option Section :=
  sections.table.get? type

end TypeSections

def elementNames (type : ComplexType) : List String := type.elements.filterMap (·.name?)

/-- The fields of a type that describes a section; names that cannot stand in a path are left
out. -/
def fieldsOfType (place : Section) (type : ComplexType) : List FieldPath :=
  (elementNames type).filterMap fun written =>
    (FieldName.ofString? written).map place.toPath.child

def fields (sections : TypeSections) (document : Document) : PathSet :=
  .ofList (document.namedTypes.flatMap fun (name, type) =>
    match sections.place? name with
    | some place => fieldsOfType place type
    | none => [])

/-- One warning for each named type that describes no section. -/
def mappingGaps (sections : TypeSections) (document : Document) : List SourceIssue :=
  document.namedTypes.filterMap fun (name, type) =>
    match sections.place? name with
    | some _ => none
    | none => some (.mappingGap name (elementNames type).length)

end Concord.Xsd
