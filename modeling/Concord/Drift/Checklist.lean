import Concord.Drift.Presence

namespace Concord.Drift

/-! Checklists of the fields expected in a section, and the report on each of them. -/

/-- Fields that a section should have, in the order of their names. -/
structure Checklist where
  sectionPath : FieldPath
  fields : SortedSet FieldName

namespace Checklist

/-- The section is read first, then the fields in order; repeated fields count once. -/
def ofTexts (key : String) (fields : List String) : Except PathError Checklist := do
  let sectionPath ← FieldPath.parse key
  let names ← fields.mapM FieldName.ofString
  return { sectionPath, fields := .ofList names }

def standardEntries : List (String × List String) := [
  ("basics", ["name", "label", "title", "age", "dateOfBirth", "gender", "image", "email", "phone",
    "url", "summary", "keyAchievements", "coreCompetencies", "location", "profiles",
    "nationalities", "workAuthorization"]),
  ("basics.location", ["address", "streetAddress", "postalCode", "city", "countryCode", "region"]),
  ("meta", ["canonical", "version", "lastModified", "dateCreated", "dateModified",
    "datePublished"])]

def standard : List Checklist :=
  standardEntries.filterMap fun (key, fields) => (ofTexts key fields).toOption

def toJson (checklist : Checklist) : Json :=
  .object [("key", .string checklist.sectionPath.render),
    ("fields", .strings (checklist.fields.toList.map (·.text)))]

end Checklist

structure SectionRow where
  field : FieldName
  path : FieldPath
  presence : Presence
deriving DecidableEq

namespace SectionRow

def isMismatch (row : SectionRow) : Bool := row.presence.isMismatch

def toJson (row : SectionRow) : Json :=
  .object [("field", .string row.field.text), ("path", .string row.path.render),
    ("presence", row.presence.toJson), ("mismatch", .bool row.isMismatch)]

end SectionRow

structure SectionReport where
  sectionPath : FieldPath
  rows : List SectionRow
deriving DecidableEq

namespace SectionReport

/-- An expected field is looked up below its section; a context and a meta-schema know it by its
bare name. -/
def rowOf (inventories : Inventories) (sectionPath : FieldPath) (field : FieldName) :
    SectionRow where
  field := field
  path := sectionPath.child field
  presence := {
    jsonSchema := inventories.jsonSchema.contains (sectionPath.child field)
    jsonLdContext := inventories.context.contains field.text
    metaSchema := inventories.metaSchema.contains (.field field)
    xsd := inventories.xsd.contains (sectionPath.child field) }

def ofChecklist (inventories : Inventories) (checklist : Checklist) : SectionReport where
  sectionPath := checklist.sectionPath
  rows := checklist.fields.toList.map (rowOf inventories checklist.sectionPath)

def mismatches (report : SectionReport) : List SectionRow := report.rows.filter (·.isMismatch)

def mismatchCount (report : SectionReport) : Nat := report.mismatches.length

def toJson (report : SectionReport) : Json :=
  .object [("section", .string report.sectionPath.render),
    ("rows", .array (report.rows.map (·.toJson)))]

end SectionReport

end Concord.Drift
