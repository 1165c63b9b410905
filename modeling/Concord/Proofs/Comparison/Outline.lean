import Concord.Comparison
import Concord.Proofs.Context
import Concord.Proofs.Schema.Fields
import Concord.Proofs.Xsd.Fields

namespace Concord

/-! Outlines: the sections of a resume and their fields, before a representation writes them down.

A JSON Schema nests the fields of a section in its properties or in those of its items, a context
names all fields side by side, and an XSD has a complex type for each section.  The main statements
say that the inventory of a document which writes an outline down in its own way holds the paths of
the outline, or their names, and nothing else.
-/

/-- A section whose name is free for use in a schema and in a table of types. -/
structure OutlineSection where
  segment : Segment
  /-- The complex type that describes the section in an XSD. -/
  typeName : String
  fields : List FieldName
  notMetadata : segment.name.text ∉ Schema.metadataKeys
  notRoot : segment.render ≠ Xsd.Section.rootName

structure Outline where
  sections : List OutlineSection
  distinct : (sections.map (·.segment.name)).Nodup

namespace OutlineSection

def path (part : OutlineSection) : FieldPath := ⟨[part.segment]⟩

theorem child_path_inj {part other : OutlineSection} {field otherField : FieldName}
    (same : part.path.child field = other.path.child otherField) :
    part.segment = other.segment ∧ field = otherField := by
  simpa [path, FieldPath.child, FieldPath.append] using same

/-- An object with a member for each of the fields, none of which has fields of its own. -/
structure HasFields (properties : Json) (fields : List FieldName) : Prop where
  object : properties.isObject = true
  listed : ∀ name, (properties.get? name).isSome = true ↔ name ∈ fields.map (·.text)
  leaves : ∀ name field, properties.get? name = some field → field.objectAt? "properties" = none

def DeclaresFields (schema : Json) (fields : List FieldName) : Prop :=
  ∃ properties, schema.get? "properties" = some properties ∧ HasFields properties fields

/-- A property of a schema writes a section down in its own properties, or in those of its items if
the section is a list. -/
def InProperty (part : OutlineSection) (property : Json) : Prop :=
  if part.segment.list then
    property.objectAt? "properties" = none ∧
      ∃ items, property.get? "items" = some items ∧ DeclaresFields items part.fields
  else DeclaresFields property part.fields

theorem sectionSchemas?_of_inProperty {part : OutlineSection} {property : Json}
    (written : part.InProperty property) :
    ∃ properties nested, Schema.sectionSchemas? property = some (nested, part.segment.list) ∧
      properties.members? = some nested ∧ HasFields properties part.fields := by
  have listed {schema : Json} (declares : DeclaresFields schema part.fields) :
      ∃ properties nested, schema.objectAt? "properties" = some nested ∧
        properties.members? = some nested ∧ HasFields properties part.fields := by
    obtain ⟨properties, found, fields⟩ := declares
    obtain ⟨nested, members⟩ := Json.isObject_iff_exists.mp fields.object
    exact ⟨properties, nested, Json.objectAt?_eq_some_iff.mpr ⟨properties, found, members⟩,
      members, fields⟩
  unfold InProperty at written
  cases list : part.segment.list with
  | true =>
      rw [list, if_pos rfl] at written
      obtain ⟨plain, items, found, declares⟩ := written
      obtain ⟨properties, nested, below, members, fields⟩ := listed declares
      exact ⟨properties, nested, by simp [Schema.sectionSchemas?, plain, found, below],
        members, fields⟩
  | false =>
      rw [list, if_neg Bool.false_ne_true] at written
      obtain ⟨properties, nested, below, members, fields⟩ := listed written
      exact ⟨properties, nested, by simp [Schema.sectionSchemas?, below], members, fields⟩

/-- Fields without fields of their own are listed at any depth, and nothing else is. -/
theorem mem_fieldsBelow_iff {properties : Json} {nested : Table String Json}
    {fields : List FieldName} (members : properties.members? = some nested)
    (leaf : HasFields properties fields) {depth : Nat} (deep : 1 ≤ depth)
    {above path : FieldPath} :
    path ∈ Schema.fieldsBelow depth above (Schema.shapesOf nested) ↔
      ∃ field ∈ fields, path = above.child field := by
  obtain ⟨depth, rfl⟩ := Nat.exists_eq_add_of_le' deep
  rw [Schema.mem_fieldsBelow_shapesOf_iff]
  have listed (name : FieldName) : (properties.get? name.text).isSome = true ↔ name ∈ fields := by
    rw [leaf.listed]
    exact List.mem_map_of_injective fun _ _ => FieldName.text_injective
  constructor
  · intro listed
    obtain ⟨name, schema, stored, place⟩ := listed
    rw [Json.get?_of_members? members] at stored
    rcases place with here | ⟨deeper, below, _⟩
    · exact ⟨name, (listed name).mp (stored ▸ rfl), here⟩
    · rw [leaf.leaves _ _ stored] at below
      cases below
  · intro declared
    obtain ⟨name, member, here⟩ := declared
    obtain ⟨schema, stored⟩ := Option.isSome_iff_exists.mp ((listed name).mpr member)
    rw [← Json.get?_of_members? members] at stored
    exact ⟨name, schema, stored, .inl here⟩

end OutlineSection

namespace Outline

def Declares (outline : Outline) (path : FieldPath) : Prop :=
  ∃ part ∈ outline.sections, ∃ field ∈ part.fields, path = part.path.child field

def names (outline : Outline) : List String :=
  outline.sections.flatMap fun part => part.fields.map (·.text)

theorem mem_names_iff {outline : Outline} {name : String} :
    name ∈ outline.names ↔ ∃ part ∈ outline.sections, ∃ field ∈ part.fields, field.text = name := by
  simp [names]

theorem eq_of_name_eq {outline : Outline} {part other : OutlineSection}
    (member : part ∈ outline.sections) (otherMember : other ∈ outline.sections)
    (same : part.segment.name = other.segment.name) : part = other :=
  List.inj_on_of_nodup_map outline.distinct member otherMember same

/-- A schema writes an outline down when its properties are the sections; properties that describe
the document or hold no fields may stand beside them. -/
def InSchema (outline : Outline) (schema : Json) : Prop :=
  ∃ properties, schema.get? "properties" = some properties ∧ properties.isObject = true ∧
    (∀ part ∈ outline.sections, ∃ property,
      properties.get? part.segment.name.text = some property ∧ part.InProperty property) ∧
    ∀ name property, properties.get? name = some property →
      (∃ part ∈ outline.sections, part.segment.name.text = name) ∨
        name ∈ Schema.metadataKeys ∨ Schema.sectionSchemas? property = none

theorem mem_schemaFields_iff {outline : Outline} {schema : Json} (written : outline.InSchema schema)
    {depth : Nat} (deep : 1 ≤ depth) {path : FieldPath} :
    path ∈ Schema.fields depth (.ofJson schema) ↔ outline.Declares path := by
  obtain ⟨properties, found, object, each, only⟩ := written
  obtain ⟨members, listed⟩ := Json.isObject_iff_exists.mp object
  have standing := Json.objectAt?_eq_some_iff.mpr ⟨properties, found, listed⟩
  rw [Schema.mem_fields_ofJson_iff]
  constructor
  · intro listed
    obtain ⟨_, name, property, nested, list, again, stored, plain, sectionFound, below⟩ := listed
    obtain rfl := Option.some.inj (standing.symm.trans again)
    rw [Json.get?_of_members? listed] at stored
    rcases only _ _ stored with ⟨part, member, named⟩ | metadata | noSection
    · obtain ⟨written, partStored, inProperty⟩ := each part member
      rw [named, stored] at partStored
      obtain rfl := Option.some.inj partStored
      obtain ⟨inner, fields, schemas, innerMembers, leaf⟩ :=
        OutlineSection.sectionSchemas?_of_inProperty inProperty
      rw [sectionFound, Option.some.injEq, Prod.mk.injEq] at schemas
      obtain ⟨rfl, rfl⟩ := schemas
      obtain rfl := FieldName.text_injective named
      obtain ⟨field, fieldMember, here⟩ :=
        (OutlineSection.mem_fieldsBelow_iff innerMembers leaf deep).mp below
      exact ⟨part, member, field, fieldMember, here⟩
    · exact absurd metadata plain
    · rw [noSection] at sectionFound
      cases sectionFound
  · intro declared
    obtain ⟨part, member, field, fieldMember, here⟩ := declared
    obtain ⟨property, stored, inProperty⟩ := each part member
    obtain ⟨inner, nested, schemas, innerMembers, leaf⟩ :=
      OutlineSection.sectionSchemas?_of_inProperty inProperty
    refine ⟨members, part.segment.name, property, nested, part.segment.list, standing, ?_,
      part.notMetadata, schemas, ?_⟩
    · rw [Json.get?_of_members? listed, stored]
    · exact (OutlineSection.mem_fieldsBelow_iff innerMembers leaf deep).mpr
        ⟨field, fieldMember, here⟩

/-- A context writes names down as the field keys of one object. -/
def InContext (names : List String) (document : Json) : Prop :=
  ∃ context, document.get? "@context" = some context ∧ context.isObject = true ∧
    ∀ name, Context.isFieldKey name = true ∧ (context.get? name).isSome = true ↔ name ∈ names

theorem mem_contextNames_iff {names : List String} {document : Json}
    (written : InContext names document) {name : String} :
    name ∈ Context.names document ↔ name ∈ names := by
  obtain ⟨context, found, object, listed⟩ := written
  rw [Context.mem_names_iff_of_object found object, listed]

/-- An XSD writes an outline down when its named types are those of the sections, with the fields of
the section as elements, and the written form of the section stands in the table of types. -/
structure InXsd (outline : Outline) (types : Xsd.TypeSections) (document : Xsd.Document) :
    Prop where
  mapped : ∀ part ∈ outline.sections, ∃ place,
    Xsd.Section.ofString part.segment.render = .ok place ∧
      types.place? part.typeName = some place
  declared : ∀ part ∈ outline.sections, ∃ type, (part.typeName, type) ∈ document.namedTypes
  described : ∀ entry ∈ document.namedTypes, ∃ part ∈ outline.sections, part.typeName = entry.1 ∧
    ∀ name, name ∈ Xsd.elementNames entry.2 ↔ name ∈ part.fields.map (·.text)

namespace InXsd

variable {outline : Outline} {types : Xsd.TypeSections} {document : Xsd.Document}

theorem place_eq (written : outline.InXsd types document) {part : OutlineSection}
    (member : part ∈ outline.sections) : types.place? part.typeName = some (.below part.path) := by
  obtain ⟨place, read, stored⟩ := written.mapped part member
  rw [Xsd.Section.ofString_render part.notRoot] at read
  rw [stored, ← Except.ok.inj read, OutlineSection.path]

/-- Sections are told apart by their types, since a type has one place only. -/
theorem eq_of_typeName_eq (written : outline.InXsd types document) {part other : OutlineSection}
    (member : part ∈ outline.sections) (otherMember : other ∈ outline.sections)
    (same : part.typeName = other.typeName) : part = other := by
  have place := written.place_eq member
  rw [same, written.place_eq otherMember] at place
  have segments : other.segment = part.segment := by
    simpa [OutlineSection.path] using place
  exact eq_of_name_eq member otherMember (by rw [segments])

end InXsd

theorem mem_xsdFields_iff {outline : Outline} {types : Xsd.TypeSections} {document : Xsd.Document}
    (written : outline.InXsd types document) {path : FieldPath} :
    path ∈ Xsd.fields types document ↔ outline.Declares path := by
  rw [Xsd.mem_fields_iff]
  constructor
  · intro listed
    obtain ⟨typeName, type, place, field, declared, mapped, element, here⟩ := listed
    obtain ⟨part, member, named, elements⟩ := written.described _ declared
    have stored := written.place_eq member
    rw [named, mapped, Option.some.injEq] at stored
    subst stored
    obtain ⟨own, ownMember, text⟩ := List.mem_map.mp ((elements _).mp element)
    obtain rfl := FieldName.text_injective text
    exact ⟨part, member, own, ownMember, here⟩
  · intro declared
    obtain ⟨part, member, field, fieldMember, here⟩ := declared
    obtain ⟨type, declared⟩ := written.declared part member
    obtain ⟨other, otherMember, named, elements⟩ := written.described _ declared
    obtain rfl := written.eq_of_typeName_eq member otherMember named.symm
    exact ⟨part.typeName, type, .below part.path, field, declared, written.place_eq member,
      (elements _).mpr (List.mem_map_of_mem fieldMember), here⟩

theorem mappingGaps_eq_nil {outline : Outline} {types : Xsd.TypeSections}
    {document : Xsd.Document} (written : outline.InXsd types document) :
    Xsd.mappingGaps types document = [] := by
  rw [Xsd.mappingGaps_eq_nil_iff]
  intro entry declared
  obtain ⟨part, member, named, _⟩ := written.described entry declared
  rw [← named, written.place_eq member]
  rfl

end Outline

end Concord
