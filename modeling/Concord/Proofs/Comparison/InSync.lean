import Concord.Proofs.Comparison.Documents
import Concord.Proofs.Drift.Agreement
import Concord.Proofs.Drift.SectionRows

namespace Concord

/-! Documents that write down one outline are in sync.

The main statement is that a comparison of such documents finds nothing: no drift in the matrix, no
type without a section, nothing that only one of them has, and no flagged row in a section table.
-/

namespace Comparison

theorem mismatchCount_eq_zero {comparison : Comparison}
    (clean : ∀ table ∈ comparison.sections, ∀ row ∈ table.rows, row.isMismatch = false) :
    comparison.mismatchCount = 0 := by
  have none (table : Drift.SectionReport) (member : table ∈ comparison.sections) :
      table.mismatchCount = 0 := by
    rw [Drift.SectionReport.mismatchCount, List.length_eq_zero_iff, Drift.SectionReport.mismatches,
      List.filter_eq_nil_iff]
    intro row rowMember
    simp [clean table member row rowMember]
  unfold mismatchCount
  generalize comparison.sections = tables at none
  induction tables with
  | nil => rfl
  | cons table rest ih =>
      rw [List.foldl_cons, none table (List.mem_cons_self ..)]
      exact ih fun other member => none other (List.mem_cons_of_mem _ member)

end Comparison

namespace Outline

/-- What is left out where an outline is held. -/
structure Losses where
  fromSchema : FieldPath → Prop
  fromContext : String → Prop
  fromXsd : FieldPath → Prop

namespace Losses

def none : Losses := ⟨fun _ => False, fun _ => False, fun _ => False⟩

/-- A loss makes the representations differ on a field, unless the schema and the XSD lose it
together. -/
def Shows (losses : Losses) (path : FieldPath) (name : String) : Prop :=
  losses.fromSchema path ∧ ¬ losses.fromXsd path ∨
  losses.fromXsd path ∧ ¬ losses.fromSchema path ∨
  losses.fromContext name ∧ ¬ losses.fromSchema path ∧ ¬ losses.fromXsd path

end Losses

/-- Inventories that hold an outline but for some losses, and nothing else of resume data. -/
structure HeldBy (outline : Outline) (losses : Losses) (inventories : Inventories) : Prop where
  schema : ∀ path, path ∈ inventories.jsonSchema ↔
    outline.Declares path ∧ ¬ losses.fromSchema path
  context : ∀ name, name ∈ inventories.context ↔ name ∈ outline.names ∧ ¬ losses.fromContext name
  xsd : ∀ path, path ∈ inventories.xsd ↔ outline.Declares path ∧ ¬ losses.fromXsd path

namespace HeldBy

variable {outline : Outline} {losses : Losses} {inventories : Inventories}

theorem context_iff (held : outline.HeldBy losses inventories) {above : FieldPath}
    {field : FieldName} (declared : outline.Declares (above.child field)) :
    field.text ∈ inventories.context ↔ ¬ losses.fromContext field.text := by
  rw [held.context]
  apply and_iff_right
  obtain ⟨part, member, own, ownMember, same⟩ := declared
  refine mem_names_iff.mpr ⟨part, member, own, ownMember, ?_⟩
  have ends : (above.child field).endsWith field.text = true :=
    FieldPath.endsWith_child_iff.mpr rfl
  rw [same] at ends
  exact FieldPath.endsWith_child_iff.mp ends

/-- The matrix drifts on the declared fields that show a loss. -/
theorem mem_mismatchPaths_iff (held : outline.HeldBy losses inventories) {path : FieldPath} :
    path ∈ (Drift.PresenceMatrix.ofInventories inventories).mismatchPaths ↔
      ∃ part ∈ outline.sections, ∃ field ∈ part.fields,
        path = part.path.child field ∧ losses.Shows path field.text := by
  rw [Drift.PresenceMatrix.mem_mismatchPaths_iff, held.schema, held.xsd]
  have leaf {part : OutlineSection} {field : FieldName} (member : part ∈ outline.sections)
      (fieldMember : field ∈ part.fields) :
      inventories.context.namesLeaf (part.path.child field) = false ↔
        losses.fromContext field.text := by
    have declared : outline.Declares (part.path.child field) :=
      ⟨part, member, field, fieldMember, rfl⟩
    rw [NameSet.namesLeaf_child, ← Bool.not_eq_true, SortedSet.contains_iff_mem,
      held.context_iff declared, not_not]
  constructor
  · intro drifts
    have declared : outline.Declares path := by
      rcases drifts with ⟨⟨declared, _⟩, _⟩ | ⟨⟨declared, _⟩, _⟩ | ⟨⟨declared, _⟩, _⟩ <;>
        exact declared
    obtain ⟨part, member, field, fieldMember, rfl⟩ := id declared
    refine ⟨part, member, field, fieldMember, rfl, ?_⟩
    rw [leaf member fieldMember] at drifts
    unfold Losses.Shows
    tauto
  · intro declared
    obtain ⟨part, member, field, fieldMember, rfl, shown⟩ := declared
    have declared : outline.Declares (part.path.child field) :=
      ⟨part, member, field, fieldMember, rfl⟩
    rw [leaf member fieldMember]
    unfold Losses.Shows at shown
    tauto

/-- A section table flags the declared fields on which the losses differ. -/
theorem isMismatch_iff (held : outline.HeldBy losses inventories)
    {checklist : Drift.Checklist} {row : Drift.SectionRow}
    (member : row ∈ (Drift.SectionReport.ofChecklist inventories checklist).rows)
    (declared : outline.Declares row.path) :
    row.isMismatch = true ↔
      ¬ ((losses.fromSchema row.path ↔ losses.fromContext row.field.text) ∧
        (losses.fromContext row.field.text ↔ losses.fromXsd row.path)) := by
  obtain ⟨field, _, rfl⟩ := Drift.SectionReport.mem_rows_iff.mp member
  have declared : outline.Declares (checklist.sectionPath.child field) := declared
  rw [Drift.SectionReport.isMismatch_rowOf_iff, held.schema, held.xsd, held.context_iff declared]
  simp only [declared, true_and, not_iff_not]
  rfl

end HeldBy

theorem heldBy_of_documents {outline : Outline} {options : Comparison.Options}
    {schema context : Json} (metaSchema : Except SourceIssue Json) {xsd : Xsd.Document}
    (deep : 1 ≤ options.maxDepth) (inSchema : outline.InSchema schema)
    (inContext : InContext outline.names context) (inXsd : outline.InXsd options.sections xsd) :
    outline.HeldBy .none
      (Comparison.inventoriesOf options ⟨.ok schema, .ok context, metaSchema, .ok xsd⟩) where
  schema _ := (mem_schemaFields_iff inSchema deep).trans (and_iff_left not_false).symm
  context _ := (mem_contextNames_iff inContext).trans (and_iff_left not_false).symm
  xsd _ := (mem_xsdFields_iff inXsd).trans (and_iff_left not_false).symm

namespace HeldBy

variable {outline : Outline} {inventories : Inventories}

theorem mismatches_eq_nil (held : outline.HeldBy .none inventories) :
    (Drift.PresenceMatrix.ofInventories inventories).mismatches = [] := by
  rw [← List.map_eq_nil_iff (f := (·.1)), ← Drift.PresenceMatrix.mismatchPaths]
  apply List.eq_nil_iff_forall_not_mem.mpr
  intro path drifts
  obtain ⟨_, _, _, _, _, shown⟩ := held.mem_mismatchPaths_iff.mp drifts
  simp [Losses.Shows, Losses.none] at shown

theorem row_not_mismatch (held : outline.HeldBy .none inventories) {checklist : Drift.Checklist}
    {row : Drift.SectionRow}
    (member : row ∈ (Drift.SectionReport.ofChecklist inventories checklist).rows)
    (declared : outline.Declares row.path) : row.isMismatch = false := by
  rw [← Bool.not_eq_true, held.isMismatch_iff member declared, not_not]
  exact ⟨Iff.rfl, Iff.rfl⟩

theorem schema_eq_xsd (held : outline.HeldBy .none inventories) :
    inventories.jsonSchema = inventories.xsd := by
  apply SortedSet.ext
  intro path
  rw [held.schema, held.xsd]
  rfl

theorem exists_path_of_name (held : outline.HeldBy .none inventories) {name : String}
    (known : name ∈ inventories.context) :
    ∃ path ∈ inventories.jsonSchema, path.endsWith name = true := by
  obtain ⟨listed, _⟩ := (held.context name).mp known
  obtain ⟨part, member, field, fieldMember, text⟩ := mem_names_iff.mp listed
  refine ⟨part.path.child field, ?_, FieldPath.endsWith_child_iff.mpr text⟩
  exact (held.schema _).mpr ⟨⟨part, member, field, fieldMember, rfl⟩, not_false⟩

theorem summary_lists_eq_nil (held : outline.HeldBy .none inventories) :
    (Drift.Summary.ofInventories inventories).onlyInSchema = [] ∧
    (Drift.Summary.ofInventories inventories).onlyInContext = [] ∧
    (Drift.Summary.ofInventories inventories).onlyInXsd = [] ∧
    (Drift.Summary.ofInventories inventories).missingFromContext = [] ∧
    (Drift.Summary.ofInventories inventories).missingFromSchema = [] := by
  have steady (path : FieldPath) :
      path ∉ (Drift.PresenceMatrix.ofInventories inventories).mismatchPaths := by
    rw [Drift.PresenceMatrix.mismatchPaths, held.mismatches_eq_nil]
    exact List.not_mem_nil
  have matched (name : String) :
      name ∉ (Drift.Summary.ofInventories inventories).missingFromSchema := by
    intro missing
    obtain ⟨known, unmatched⟩ := Drift.Summary.mem_missingFromSchema_iff.mp missing
    obtain ⟨path, member, ends⟩ := held.exists_path_of_name known
    exact absurd ends (by simp [unmatched path member])
  refine ⟨?_, ?_, ?_, ?_, List.eq_nil_iff_forall_not_mem.mpr matched⟩ <;>
    apply List.eq_nil_iff_forall_not_mem.mpr
  · exact fun path only => steady path (Drift.Summary.mem_mismatchPaths_of_listed (.inl only))
  · exact fun name only => matched name (Drift.Summary.mem_missingFromSchema_of_onlyInContext only)
  · exact fun path only =>
      steady path (Drift.Summary.mem_mismatchPaths_of_listed (.inr (.inl only)))
  · exact fun path missing =>
      steady path (Drift.Summary.mem_mismatchPaths_of_listed (.inr (.inr missing)))

end HeldBy

end Outline

/-- Documents that write down the same outline compare clean, whatever the meta-schema is. -/
theorem outline_comparison_is_clean {outline : Outline} {options : Comparison.Options}
    (baseDir : String) {schema context : Json} (metaSchema : Except SourceIssue Json)
    {xsd : Xsd.Document} (deep : 1 ≤ options.maxDepth) (inSchema : outline.InSchema schema)
    (inContext : Outline.InContext outline.names context)
    (inXsd : outline.InXsd options.sections xsd) :
    let sources : Sources := ⟨.ok schema, .ok context, metaSchema, .ok xsd⟩
    let comparison := Comparison.ofSources options baseDir sources
    comparison.inventories.jsonSchema = comparison.inventories.xsd ∧
    comparison.matrix.mismatches = [] ∧
    Comparison.gaps options sources = [] ∧ comparison.issues = sources.failures ∧
    comparison.summary.onlyInSchema = [] ∧ comparison.summary.onlyInContext = [] ∧
    comparison.summary.onlyInXsd = [] ∧ comparison.summary.missingFromContext = [] ∧
    comparison.summary.missingFromSchema = [] ∧
    (∀ checklist row,
      row ∈ (Drift.SectionReport.ofChecklist comparison.inventories checklist).rows →
        outline.Declares row.path → row.isMismatch = false) ∧
    ((∀ checklist ∈ options.checklists, ∀ field ∈ checklist.fields,
      outline.Declares (checklist.sectionPath.child field)) → comparison.mismatchCount = 0) := by
  intro sources comparison
  have held : outline.HeldBy .none comparison.inventories :=
    Outline.heldBy_of_documents metaSchema deep inSchema inContext inXsd
  have gaps : Comparison.gaps options sources = [] := Outline.mappingGaps_eq_nil inXsd
  have issues : comparison.issues = sources.failures := by
    change sources.failures ++ Comparison.gaps options sources = sources.failures
    rw [gaps, List.append_nil]
  obtain ⟨onlyInSchema, onlyInContext, onlyInXsd, missingFromContext, missingFromSchema⟩ :=
    held.summary_lists_eq_nil
  refine ⟨held.schema_eq_xsd, held.mismatches_eq_nil, gaps, issues, onlyInSchema, onlyInContext,
    onlyInXsd, missingFromContext, missingFromSchema, fun _ _ => held.row_not_mismatch, ?_⟩
  intro covered
  apply Comparison.mismatchCount_eq_zero
  intro table tableMember row member
  obtain ⟨checklist, listed, rfl⟩ := List.mem_map.mp tableMember
  obtain ⟨field, fieldMember, rfl⟩ := Drift.SectionReport.mem_rows_iff.mp member
  exact held.row_not_mismatch member (covered checklist listed field fieldMember)

theorem small_resume_comparison_is_clean :
    let outline := Outline.smallResume
    let options := { Comparison.Options.standard with checklists := outline.checklists }
    let context := Outline.context outline.names
    let comparison := Comparison.ofSources options "schemas/v1"
      ⟨.ok outline.schema, .ok context, .ok .null, .ok outline.xsd⟩
    (1 ≤ options.maxDepth ∧ outline.InSchema outline.schema ∧
      Outline.InContext outline.names context ∧ outline.InXsd options.sections outline.xsd) ∧
    comparison.matrix.mismatches = [] ∧ comparison.mismatchCount = 0 := by
  intro outline options context comparison
  have deep : 1 ≤ options.maxDepth := by decide
  have inSchema : outline.InSchema outline.schema := outline.inSchema_schema
  have inContext : Outline.InContext outline.names context := Outline.inContext_smallResume
  have inXsd : outline.InXsd options.sections outline.xsd := Outline.inXsd_smallResume
  obtain ⟨_, matrix, _, _, _, _, _, _, _, _, tables⟩ :=
    outline_comparison_is_clean "schemas/v1" (.ok .null) deep inSchema inContext inXsd
  refine ⟨⟨deep, inSchema, inContext, inXsd⟩, matrix, tables ?_⟩
  intro checklist listed field fieldMember
  exact outline.declares_iff_exists_checklist.mpr ⟨checklist, listed, field, fieldMember, rfl⟩

end Concord
