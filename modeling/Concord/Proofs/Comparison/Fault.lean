import Concord.Proofs.Comparison.InSync

namespace Concord

/-! One fault in documents that are otherwise in sync.

A field is taken out of a section of the schema or of the XSD, or a name out of the context.  The
document that is left writes down a smaller outline, so its inventory has exactly one loss.  The
main statement is that a comparison finds the fault where it is, and finds nothing else.
-/

namespace OutlineSection

def without (part : OutlineSection) (field : FieldName) : OutlineSection :=
  { part with fields := part.fields.filter (· ≠ field) }

theorem mem_texts_without_iff {part : OutlineSection} {field : FieldName} {name : String} :
    name ∈ (part.without field).fields.map (·.text) ↔
      name ≠ field.text ∧ name ∈ part.fields.map (·.text) := by
  simp only [without, List.mem_map, List.mem_filter, decide_eq_true_eq]
  constructor
  · intro kept
    obtain ⟨own, ⟨member, different⟩, rfl⟩ := kept
    exact ⟨fun same => different (FieldName.text_injective same), own, member, rfl⟩
  · intro kept
    obtain ⟨different, own, member, rfl⟩ := kept
    exact ⟨own, ⟨member, fun same => different (congrArg _ same)⟩, rfl⟩

def dropProperty (field : FieldName) (schema : Json) : Json :=
  schema.modify "properties" (·.erase field.text)

def dropFromSchema (part : OutlineSection) (field : FieldName) (schema : Json) : Json :=
  schema.modify "properties" (·.modify part.segment.name.text fun property =>
    if part.segment.list then property.modify "items" (dropProperty field)
    else dropProperty field property)

theorem HasFields.erase {part : OutlineSection} {properties : Json}
    (fields : HasFields properties part.fields) (field : FieldName) :
    HasFields (properties.erase field.text) (part.without field).fields where
  object := by rw [Json.isObject_erase, fields.object]
  listed name := by
    rw [mem_texts_without_iff, ← fields.listed, Json.get?_erase]
    by_cases same : name = field.text <;> simp [same]
  leaves name schema found := by
    rw [Json.get?_erase] at found
    split at found
    · cases found
    · exact fields.leaves name schema found

theorem DeclaresFields.dropProperty {part : OutlineSection} {schema : Json}
    (declares : DeclaresFields schema part.fields) (field : FieldName) :
    DeclaresFields (OutlineSection.dropProperty field schema) (part.without field).fields := by
  obtain ⟨properties, found, fields⟩ := declares
  exact ⟨_, Json.get?_modify_of_get? found, fields.erase field⟩

theorem InProperty.drop {part : OutlineSection} {property : Json}
    (written : part.InProperty property) (field : FieldName) :
    (part.without field).InProperty
      (if part.segment.list then property.modify "items" (dropProperty field)
      else dropProperty field property) := by
  have segment : (part.without field).segment = part.segment := rfl
  unfold InProperty at written ⊢
  rw [segment]
  split
  · rename_i list
    rw [if_pos list] at written
    obtain ⟨plain, items, found, declares⟩ := written
    refine ⟨?_, _, Json.get?_modify_of_get? found, declares.dropProperty field⟩
    rw [Json.objectAt?, Json.get?_modify_of_ne (by decide)]
    exact plain
  · rename_i single
    rw [if_neg single] at written
    exact written.dropProperty field

end OutlineSection

namespace Xsd

def ComplexType.withoutElement (name : String) (type : ComplexType) : ComplexType :=
  { type with elements := type.elements.filter (·.name? ≠ some name) }

def Document.withoutElement (typeName name : String) (document : Document) : Document :=
  { document with
    complexTypes := document.complexTypes.map fun type =>
      if type.name? = some typeName then type.withoutElement name else type }

/-- The complex types of `after` are those of `before`, but for the elements of one name that a type
has lost. -/
def LosesElement (typeName name : String) (before after : Document) : Prop :=
  after.complexTypes = (before.withoutElement typeName name).complexTypes

theorem mem_elementNames_withoutElement_iff {name other : String} {type : ComplexType} :
    other ∈ elementNames (type.withoutElement name) ↔ other ≠ name ∧ other ∈ elementNames type := by
  simp only [elementNames, ComplexType.withoutElement, List.mem_filterMap, List.mem_filter,
    decide_eq_true_eq]
  constructor
  · intro kept
    obtain ⟨element, ⟨member, different⟩, named⟩ := kept
    exact ⟨fun same => different (same ▸ named), element, member, named⟩
  · intro kept
    obtain ⟨different, element, member, named⟩ := kept
    refine ⟨element, ⟨member, ?_⟩, named⟩
    rw [named, ne_eq, Option.some.injEq]
    exact different

theorem LosesElement.mem_namedTypes_iff {typeName name : String} {before after : Document}
    (loses : LosesElement typeName name before after) {entry : String × ComplexType} :
    entry ∈ after.namedTypes ↔ ∃ old, (entry.1, old) ∈ before.namedTypes ∧
      entry.2 = if entry.1 = typeName then old.withoutElement name else old := by
  obtain ⟨written, type⟩ := entry
  simp only [Xsd.mem_namedTypes_iff]
  rw [loses, Document.withoutElement, List.mem_map]
  constructor
  · intro declared
    obtain ⟨⟨old, member, rfl⟩, named⟩ := declared
    by_cases here : old.name? = some typeName
    · rw [if_pos here] at named ⊢
      have same : written = typeName := Option.some.inj (named.symm.trans here)
      exact ⟨old, ⟨member, named⟩, by rw [if_pos same]⟩
    · rw [if_neg here] at named ⊢
      have different : written ≠ typeName := fun same => here (same ▸ named)
      exact ⟨old, ⟨member, named⟩, by rw [if_neg different]⟩
  · intro declared
    obtain ⟨old, ⟨member, named⟩, now⟩ := declared
    refine ⟨⟨old, member, by simp [named, now]⟩, ?_⟩
    rw [now]
    split <;> exact named

end Xsd

namespace Outline

def without (outline : Outline) (part : OutlineSection) (field : FieldName) : Outline where
  sections := outline.sections.map fun other =>
    if other.segment.name = part.segment.name then other.without field else other
  distinct := by
    rw [List.map_map]
    convert outline.distinct using 2
    funext other
    rw [Function.comp_apply]
    split <;> rfl

variable {outline : Outline} {part : OutlineSection} {field : FieldName}

theorem mem_sections_without_iff (member : part ∈ outline.sections) {other : OutlineSection} :
    other ∈ (outline.without part field).sections ↔
      other = part.without field ∨
        other ∈ outline.sections ∧ other.segment.name ≠ part.segment.name := by
  rw [without, List.mem_map]
  constructor
  · intro kept
    obtain ⟨old, oldMember, rfl⟩ := kept
    by_cases same : old.segment.name = part.segment.name
    · obtain rfl := eq_of_name_eq oldMember member same
      exact .inl (if_pos rfl)
    · rw [if_neg same]
      exact .inr ⟨oldMember, same⟩
  · intro kept
    rcases kept with rfl | ⟨otherMember, different⟩
    · exact ⟨part, member, if_pos rfl⟩
    · exact ⟨other, otherMember, if_neg different⟩

theorem declares_without_iff (member : part ∈ outline.sections) {path : FieldPath} :
    (outline.without part field).Declares path ↔
      outline.Declares path ∧ path ≠ part.path.child field := by
  constructor
  · intro declared
    obtain ⟨other, otherMember, own, ownMember, rfl⟩ := declared
    rcases (mem_sections_without_iff member).mp otherMember with rfl | ⟨old, different⟩
    · obtain ⟨kept, distinct⟩ := List.mem_filter.mp ownMember
      have distinct : own ≠ field := by simpa using distinct
      exact ⟨⟨part, member, own, kept, rfl⟩,
        fun same => distinct (OutlineSection.child_path_inj same).2⟩
    · exact ⟨⟨other, old, own, ownMember, rfl⟩,
        fun same => different (congrArg _ (OutlineSection.child_path_inj same).1)⟩
  · intro declared
    obtain ⟨⟨other, otherMember, own, ownMember, rfl⟩, different⟩ := declared
    by_cases same : other.segment.name = part.segment.name
    · obtain rfl := eq_of_name_eq otherMember member same
      have distinct : own ≠ field := fun equal => different (by rw [equal])
      refine ⟨other.without field, (mem_sections_without_iff member).mpr (.inl rfl), own, ?_, rfl⟩
      exact List.mem_filter.mpr ⟨ownMember, by simpa using distinct⟩
    · exact ⟨other, (mem_sections_without_iff member).mpr (.inr ⟨otherMember, same⟩), own,
        ownMember, rfl⟩

theorem inSchema_without {schema : Json} (written : outline.InSchema schema)
    (member : part ∈ outline.sections) :
    (outline.without part field).InSchema (part.dropFromSchema field schema) := by
  obtain ⟨properties, found, object, each, only⟩ := written
  refine ⟨_, Json.get?_modify_of_get? found, by rw [Json.isObject_modify, object], ?_, ?_⟩
  · intro other otherMember
    rcases (mem_sections_without_iff member).mp otherMember with rfl | ⟨old, different⟩
    · obtain ⟨property, stored, inProperty⟩ := each part member
      exact ⟨_, Json.get?_modify_of_get? stored, inProperty.drop field⟩
    · obtain ⟨property, stored, inProperty⟩ := each other old
      refine ⟨property, ?_, inProperty⟩
      rw [Json.get?_modify_of_ne fun same => different (FieldName.text_injective same), stored]
  · intro name property stored
    by_cases here : name = part.segment.name.text
    · exact .inl ⟨part.without field, (mem_sections_without_iff member).mpr (.inl rfl), here.symm⟩
    · rw [Json.get?_modify_of_ne here] at stored
      rcases only name property stored with ⟨other, otherMember, named⟩ | plain
      · have different : other.segment.name ≠ part.segment.name :=
          fun same => here (by rw [← named, same])
        exact .inl ⟨other, (mem_sections_without_iff member).mpr (.inr ⟨otherMember, different⟩),
          named⟩
      · exact .inr plain

theorem inXsd_without {types : Xsd.TypeSections} {xsd reduced : Xsd.Document}
    (written : outline.InXsd types xsd) (member : part ∈ outline.sections)
    (loses : Xsd.LosesElement part.typeName field.text xsd reduced) :
    (outline.without part field).InXsd types reduced where
  mapped other otherMember := by
    rcases (mem_sections_without_iff member).mp otherMember with rfl | ⟨old, _⟩
    · exact written.mapped part member
    · exact written.mapped other old
  declared other otherMember := by
    have kept (old : OutlineSection) (oldMember : old ∈ outline.sections) :
        ∃ type, (old.typeName, type) ∈ reduced.namedTypes := by
      obtain ⟨type, declared⟩ := written.declared old oldMember
      exact ⟨if old.typeName = part.typeName then type.withoutElement field.text else type,
        loses.mem_namedTypes_iff.mpr ⟨type, declared, rfl⟩⟩
    rcases (mem_sections_without_iff member).mp otherMember with rfl | ⟨old, _⟩
    · exact kept part member
    · exact kept other old
  described entry declared := by
    obtain ⟨old, oldDeclared, now⟩ := loses.mem_namedTypes_iff.mp declared
    obtain ⟨other, otherMember, named, elements⟩ := written.described _ oldDeclared
    by_cases here : entry.1 = part.typeName
    · obtain rfl := written.eq_of_typeName_eq otherMember member (named.trans here)
      refine ⟨other.without field, (mem_sections_without_iff member).mpr (.inl rfl), named, ?_⟩
      intro name
      rw [now, if_pos here, Xsd.mem_elementNames_withoutElement_iff, elements,
        OutlineSection.mem_texts_without_iff]
    · have different : other.segment.name ≠ part.segment.name := by
        intro same
        obtain rfl := eq_of_name_eq otherMember member same
        exact here named.symm
      refine ⟨other, (mem_sections_without_iff member).mpr (.inr ⟨otherMember, different⟩), named,
        ?_⟩
      rw [now, if_neg here]
      exact elements

def dropFromContext (name : String) (document : Json) : Json :=
  document.modify "@context" (·.erase name)

theorem inContext_without {names : List String} {document : Json}
    (written : InContext names document) (name : String) :
    InContext (names.filter (· ≠ name)) (dropFromContext name document) := by
  obtain ⟨context, found, object, listed⟩ := written
  refine ⟨_, Json.get?_modify_of_get? found, by rw [Json.isObject_erase, object], ?_⟩
  intro other
  rw [List.mem_filter, ← listed, Json.get?_erase]
  by_cases same : other = name <;> simp [same]

section Comparison

variable {options : Comparison.Options} {schema context : Json}
  (metaSchema : Except SourceIssue Json) {xsd : Xsd.Document}

theorem heldBy_dropFromSchema (deep : 1 ≤ options.maxDepth) (inSchema : outline.InSchema schema)
    (inContext : InContext outline.names context) (inXsd : outline.InXsd options.sections xsd)
    (member : part ∈ outline.sections) (field : FieldName) :
    outline.HeldBy { Losses.none with fromSchema := (· = part.path.child field) }
      (Comparison.inventoriesOf options
        ⟨.ok (part.dropFromSchema field schema), .ok context, metaSchema, .ok xsd⟩) where
  schema _ := (mem_schemaFields_iff (inSchema_without inSchema member) deep).trans
    (declares_without_iff member)
  context := (heldBy_of_documents metaSchema deep inSchema inContext inXsd).context
  xsd := (heldBy_of_documents metaSchema deep inSchema inContext inXsd).xsd

theorem heldBy_of_losesElement (deep : 1 ≤ options.maxDepth) (inSchema : outline.InSchema schema)
    (inContext : InContext outline.names context) (inXsd : outline.InXsd options.sections xsd)
    (member : part ∈ outline.sections) {reduced : Xsd.Document}
    (loses : Xsd.LosesElement part.typeName field.text xsd reduced) :
    outline.HeldBy { Losses.none with fromXsd := (· = part.path.child field) }
      (Comparison.inventoriesOf options ⟨.ok schema, .ok context, metaSchema, .ok reduced⟩) where
  schema := (heldBy_of_documents metaSchema deep inSchema inContext inXsd).schema
  context := (heldBy_of_documents metaSchema deep inSchema inContext inXsd).context
  xsd _ := (mem_xsdFields_iff (inXsd_without inXsd member loses)).trans
    (declares_without_iff member)

theorem heldBy_dropFromContext (deep : 1 ≤ options.maxDepth) (inSchema : outline.InSchema schema)
    (inContext : InContext outline.names context) (inXsd : outline.InXsd options.sections xsd)
    (name : String) :
    outline.HeldBy { Losses.none with fromContext := (· = name) }
      (Comparison.inventoriesOf options
        ⟨.ok schema, .ok (dropFromContext name context), metaSchema, .ok xsd⟩) where
  schema := (heldBy_of_documents metaSchema deep inSchema inContext inXsd).schema
  context other := by
    refine (mem_contextNames_iff (inContext_without inContext name)).trans ?_
    rw [List.mem_filter, decide_eq_true_eq]
  xsd := (heldBy_of_documents metaSchema deep inSchema inContext inXsd).xsd

end Comparison

/-- Every field of an outline stands in a checklist. -/
def CoveredBy (outline : Outline) (checklists : List Drift.Checklist) : Prop :=
  ∀ path, outline.Declares path → ∃ checklist ∈ checklists, ∃ field ∈ checklist.fields,
    path = checklist.sectionPath.child field

/-- The section tables have a row for each field of an outline, and flag those that are faulty.
Rows of fields that the outline does not have are left open. -/
structure TablesFlag (outline : Outline) (tables : List Drift.SectionReport)
    (faulty : Drift.SectionRow → Prop) : Prop where
  listed : ∀ path, outline.Declares path → ∃ table ∈ tables, ∃ row ∈ table.rows, row.path = path
  flagged : ∀ table ∈ tables, ∀ row ∈ table.rows, outline.Declares row.path →
    (row.isMismatch = true ↔ faulty row)

namespace HeldBy

variable {losses : Losses} {inventories : Inventories}

theorem tablesFlag (held : outline.HeldBy losses inventories) {checklists : List Drift.Checklist}
    (covered : outline.CoveredBy checklists) {faulty : Drift.SectionRow → Prop}
    (shown : ∀ row, ¬ ((losses.fromSchema row.path ↔ losses.fromContext row.field.text) ∧
      (losses.fromContext row.field.text ↔ losses.fromXsd row.path)) ↔ faulty row) :
    outline.TablesFlag (checklists.map (.ofChecklist inventories)) faulty where
  listed path declared := by
    obtain ⟨checklist, member, field, fieldMember, rfl⟩ := covered path declared
    exact ⟨.ofChecklist inventories checklist, List.mem_map_of_mem member,
      Drift.SectionReport.rowOf inventories checklist.sectionPath field,
      Drift.SectionReport.mem_rows_iff.mpr ⟨field, fieldMember, rfl⟩, rfl⟩
  flagged table tableMember row member declared := by
    obtain ⟨checklist, _, rfl⟩ := List.mem_map.mp tableMember
    rw [held.isMismatch_iff member declared, shown]

/-- One path stands in the matrix alone if it is the only one to show a loss. -/
theorem mismatchPaths_eq_singleton (held : outline.HeldBy losses inventories)
    (member : part ∈ outline.sections) (fieldMember : field ∈ part.fields)
    (shown : ∀ path name, losses.Shows path name ↔ path = part.path.child field) :
    (Drift.PresenceMatrix.ofInventories inventories).mismatchPaths = [part.path.child field] := by
  have distinct := (Drift.PresenceMatrix.ofInventories inventories).mismatchPaths_nodup
  rw [← List.perm_singleton, List.perm_ext_iff_of_nodup distinct (List.nodup_singleton _)]
  intro path
  rw [held.mem_mismatchPaths_iff, List.mem_singleton]
  constructor
  · intro drifts
    obtain ⟨_, _, _, _, _, shows⟩ := drifts
    exact (shown _ _).mp shows
  · intro same
    subst same
    exact ⟨part, member, field, fieldMember, rfl, (shown _ _).mpr rfl⟩

end HeldBy

end Outline

/-- One field that only the schema or only the XSD has lost is the one drift there is, and its row
is the one that is flagged.  A name that the context has lost makes all fields of that name drift,
in whatever section, and no others. -/
theorem single_fault_is_located {outline : Outline} {options : Comparison.Options}
    (baseDir : String) {schema context : Json} (metaSchema : Except SourceIssue Json)
    {xsd : Xsd.Document} (deep : 1 ≤ options.maxDepth) (inSchema : outline.InSchema schema)
    (inContext : Outline.InContext outline.names context)
    (inXsd : outline.InXsd options.sections xsd)
    (covered : outline.CoveredBy options.checklists) :
    (∀ part ∈ outline.sections, ∀ field ∈ part.fields,
      let comparison := Comparison.ofSources options baseDir
        ⟨.ok (part.dropFromSchema field schema), .ok context, metaSchema, .ok xsd⟩
      comparison.matrix.mismatchPaths = [part.path.child field] ∧
      outline.TablesFlag comparison.sections (·.path = part.path.child field)) ∧
    (∀ part ∈ outline.sections, ∀ field ∈ part.fields, ∀ reduced,
      Xsd.LosesElement part.typeName field.text xsd reduced →
      let comparison := Comparison.ofSources options baseDir
        ⟨.ok schema, .ok context, metaSchema, .ok reduced⟩
      comparison.matrix.mismatchPaths = [part.path.child field] ∧
      outline.TablesFlag comparison.sections (·.path = part.path.child field)) ∧
    ∀ name,
      let comparison := Comparison.ofSources options baseDir
        ⟨.ok schema, .ok (Outline.dropFromContext name context), metaSchema, .ok xsd⟩
      (∀ path, path ∈ comparison.matrix.mismatchPaths ↔
        outline.Declares path ∧ path.endsWith name = true) ∧
      outline.TablesFlag comparison.sections (·.field.text = name) := by
  refine ⟨?_, ?_, ?_⟩
  · intro part member field fieldMember comparison
    have held : outline.HeldBy _ comparison.inventories :=
      Outline.heldBy_dropFromSchema metaSchema deep inSchema inContext inXsd member field
    refine ⟨held.mismatchPaths_eq_singleton member fieldMember ?_, held.tablesFlag covered ?_⟩
    · simp [Outline.Losses.Shows, Outline.Losses.none]
    · simp [Outline.Losses.none]
  · intro part member field fieldMember reduced loses comparison
    have held : outline.HeldBy _ comparison.inventories :=
      Outline.heldBy_of_losesElement metaSchema deep inSchema inContext inXsd member loses
    refine ⟨held.mismatchPaths_eq_singleton member fieldMember ?_, held.tablesFlag covered ?_⟩
    · simp [Outline.Losses.Shows, Outline.Losses.none]
    · simp [Outline.Losses.none]
  · intro name comparison
    have held : outline.HeldBy _ comparison.inventories :=
      Outline.heldBy_dropFromContext metaSchema deep inSchema inContext inXsd name
    refine ⟨fun path => ?_, held.tablesFlag covered (by simp [Outline.Losses.none])⟩
    refine held.mem_mismatchPaths_iff.trans ⟨?_, ?_⟩
    · intro drifts
      obtain ⟨part, member, field, fieldMember, rfl, shows⟩ := drifts
      have lost : field.text = name := by
        simpa [Outline.Losses.Shows, Outline.Losses.none] using shows
      exact ⟨⟨part, member, field, fieldMember, rfl⟩, FieldPath.endsWith_child_iff.mpr lost⟩
    · intro declared
      obtain ⟨⟨part, member, field, fieldMember, rfl⟩, ends⟩ := declared
      refine ⟨part, member, field, fieldMember, rfl, ?_⟩
      simpa [Outline.Losses.Shows, Outline.Losses.none] using FieldPath.endsWith_child_iff.mp ends

theorem small_resume_fault_is_located :
    let outline := Outline.smallResume
    let options := { Comparison.Options.standard with checklists := outline.checklists }
    let context := Outline.context outline.names
    let drifts := fun schema context xsd =>
      (Comparison.ofSources options "schemas/v1"
        ⟨.ok schema, .ok context, .ok .null, .ok xsd⟩).matrix.mismatchPaths
    (1 ≤ options.maxDepth ∧ outline.InSchema outline.schema ∧
      Outline.InContext outline.names context ∧ outline.InXsd options.sections outline.xsd ∧
      outline.CoveredBy options.checklists) ∧
    (∀ part ∈ outline.sections, ∀ field ∈ part.fields,
      drifts (part.dropFromSchema field outline.schema) context outline.xsd =
        [part.path.child field] ∧
      drifts outline.schema context (outline.xsd.withoutElement part.typeName field.text) =
        [part.path.child field]) ∧
    ∀ path, path ∈ drifts outline.schema (Outline.dropFromContext "name" context) outline.xsd ↔
      outline.Declares path ∧ path.endsWith "name" = true := by
  intro outline options context drifts
  have deep : 1 ≤ options.maxDepth := by decide
  have inSchema : outline.InSchema outline.schema := outline.inSchema_schema
  have inContext : Outline.InContext outline.names context := Outline.inContext_smallResume
  have inXsd : outline.InXsd options.sections outline.xsd := Outline.inXsd_smallResume
  have covered : outline.CoveredBy options.checklists := fun _ =>
    outline.declares_iff_exists_checklist.mp
  obtain ⟨fromSchema, fromXsd, fromContext⟩ :=
    single_fault_is_located "schemas/v1" (.ok .null) deep inSchema inContext inXsd covered
  refine ⟨⟨deep, inSchema, inContext, inXsd, covered⟩, ?_, (fromContext "name").1⟩
  intro part member field fieldMember
  exact ⟨(fromSchema part member field fieldMember).1,
    (fromXsd part member field fieldMember _ rfl).1⟩

end Concord
