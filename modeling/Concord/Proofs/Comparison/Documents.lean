import Concord.Proofs.Comparison.Outline

namespace Concord

/-! Documents made from an outline.

Every outline can be written down as a schema.  It can be written down as a context if none of its
names is a keyword or a namespace, and as an XSD if its sections stand in the table of types.
-/

namespace OutlineSection

variable (part : OutlineSection)

def fieldsSchema : Json :=
  .object [("properties", .object (part.fields.map fun field => (field.text, .object [])))]

def schema : Json :=
  if part.segment.list then .object [("items", part.fieldsSchema)] else part.fieldsSchema

theorem declaresFields_fieldsSchema : DeclaresFields part.fieldsSchema part.fields := by
  refine ⟨.object (part.fields.map fun field => (field.text, .object [])), rfl, rfl, ?_, ?_⟩
  · intro name
    rw [Json.get?, Json.isSome_lastValue?_iff, List.map_map]
    rfl
  · intro name field found
    obtain ⟨_, _, same⟩ := List.mem_map.mp (Json.mem_of_lastValue? found)
    obtain ⟨_, rfl⟩ := Prod.mk.inj same
    rfl

theorem inProperty_schema : part.InProperty part.schema := by
  unfold InProperty schema
  split
  · exact ⟨rfl, part.fieldsSchema, rfl, part.declaresFields_fieldsSchema⟩
  · exact part.declaresFields_fieldsSchema

def complexType : Xsd.ComplexType where
  name? := part.typeName
  elements := part.fields.map fun field => ⟨field.text, none⟩

theorem mem_elementNames_complexType_iff {name : String} :
    name ∈ Xsd.elementNames part.complexType ↔ name ∈ part.fields.map (·.text) := by
  simp [Xsd.elementNames, complexType]

end OutlineSection

namespace Outline

variable (outline : Outline)

def schema : Json :=
  .object [("properties", .object (outline.sections.map fun part =>
    (part.segment.name.text, part.schema)))]

theorem inSchema_schema : outline.InSchema outline.schema := by
  refine ⟨.object (outline.sections.map fun part => (part.segment.name.text, part.schema)),
    rfl, rfl, ?_, ?_⟩
  · intro part member
    refine ⟨part.schema, Json.lastValue?_of_mem ?_ (List.mem_map_of_mem member),
      part.inProperty_schema⟩
    have texts := outline.distinct.map fun _ _ => FieldName.text_injective
    rw [List.map_map] at texts ⊢
    exact texts
  · intro name property stored
    obtain ⟨part, member, same⟩ := List.mem_map.mp (Json.mem_of_lastValue? stored)
    exact .inl ⟨part, member, (Prod.mk.inj same).1⟩

/-- A context that gives each name itself as its meaning. -/
def context (names : List String) : Json :=
  .object [("@context", .object (names.map fun name => (name, .string name)))]

theorem inContext_context {names : List String}
    (plain : ∀ name ∈ names, Context.isFieldKey name = true) :
    InContext names (context names) := by
  refine ⟨.object (names.map fun name => (name, .string name)), rfl, rfl, ?_⟩
  intro name
  rw [Json.get?, Json.isSome_lastValue?_iff, List.map_map]
  change _ ∧ name ∈ names.map id ↔ _
  rw [List.map_id]
  exact and_iff_right_of_imp (plain name)

def xsd : Xsd.Document where
  root := ⟨some Xsd.namespaceUri, "schema"⟩
  targetNamespace? := none
  complexTypes := outline.sections.map (·.complexType)
  simpleTypeCount := 0
  topLevelElements := []
  elements := outline.sections.flatMap (·.complexType.elements)

theorem mem_namedTypes_xsd_iff {entry : String × Xsd.ComplexType} :
    entry ∈ outline.xsd.namedTypes ↔
      ∃ part ∈ outline.sections, entry = (part.typeName, part.complexType) := by
  obtain ⟨name, type⟩ := entry
  rw [Xsd.mem_namedTypes_iff, xsd, List.mem_map]
  constructor
  · intro declared
    obtain ⟨⟨part, member, same⟩, named⟩ := declared
    rw [← same] at named
    exact ⟨part, member, Prod.ext (Option.some.inj named).symm same.symm⟩
  · intro written
    obtain ⟨part, member, same⟩ := written
    obtain ⟨rfl, rfl⟩ := Prod.mk.inj same
    exact ⟨⟨part, member, rfl⟩, rfl⟩

theorem inXsd_xsd {types : Xsd.TypeSections}
    (mapped : ∀ part ∈ outline.sections, types.place? part.typeName = some (.below part.path)) :
    outline.InXsd types outline.xsd where
  mapped part member :=
    ⟨.below part.path, Xsd.Section.ofString_render part.notRoot, mapped part member⟩
  declared part member :=
    ⟨part.complexType, outline.mem_namedTypes_xsd_iff.mpr ⟨part, member, rfl⟩⟩
  described entry declared := by
    obtain ⟨part, member, rfl⟩ := outline.mem_namedTypes_xsd_iff.mp declared
    exact ⟨part, member, rfl, fun _ => part.mem_elementNames_complexType_iff⟩

def checklists : List Drift.Checklist :=
  outline.sections.map fun part => ⟨part.path, .ofList part.fields⟩

theorem declares_iff_exists_checklist {path : FieldPath} :
    outline.Declares path ↔ ∃ checklist ∈ outline.checklists, ∃ field ∈ checklist.fields,
      path = checklist.sectionPath.child field := by
  constructor
  · intro declared
    obtain ⟨part, member, field, fieldMember, here⟩ := declared
    exact ⟨_, List.mem_map_of_mem member, field, SortedSet.mem_ofList.mpr fieldMember, here⟩
  · intro covered
    obtain ⟨checklist, listed, field, fieldMember, here⟩ := covered
    obtain ⟨part, member, rfl⟩ := List.mem_map.mp listed
    exact ⟨part, member, field, SortedSet.mem_ofList.mp fieldMember, here⟩

/-- A section and a list of sections that have a field name in common. -/
def smallResume : Outline where
  sections := [
    { segment := ⟨⟨"basics", by decide, by simp [isReserved]⟩, false⟩
      typeName := "BasicsType"
      fields := [
        ⟨"name", by decide, by simp [isReserved]⟩, ⟨"url", by decide, by simp [isReserved]⟩]
      notMetadata := by decide
      notRoot := by decide },
    { segment := ⟨⟨"work", by decide, by simp [isReserved]⟩, true⟩
      typeName := "WorkType"
      fields := [
        ⟨"name", by decide, by simp [isReserved]⟩, ⟨"position", by decide, by simp [isReserved]⟩]
      notMetadata := by decide
      notRoot := by decide }]
  distinct := by decide

theorem inContext_smallResume : InContext smallResume.names (context smallResume.names) :=
  inContext_context (by decide +kernel)

theorem inXsd_smallResume : smallResume.InXsd .standard smallResume.xsd :=
  smallResume.inXsd_xsd (by decide +kernel)

end Outline

end Concord
