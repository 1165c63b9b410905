import Concord.Proofs.Drift.Agreement
import Concord.Proofs.Drift.SectionRows

namespace Concord.Drift

/-! What a section table flags, beside what the matrix and the summary find.

A table asks the inventories by itself: for the path of a field in the schema and the XSD, and for
its bare name in the context and the meta-schema.  The matrix and the summary know no bare names but
the last name of a path.  The main statements say where a table and the matrix give the same answer,
and that a table passes over no finding of the summary on one of its rows.
-/

variable {inventories : Inventories}

namespace Summary

/-- A name that is missing from the schema is one of the context, and the schema has no field of that
name in any section. -/
theorem known_of_missingFromSchema {field : FieldName}
    (missing : field.text ∈ (ofInventories inventories).missingFromSchema) (above : FieldPath) :
    field.text ∈ inventories.context ∧ above.child field ∉ inventories.jsonSchema := by
  obtain ⟨known, unmatched⟩ := mem_missingFromSchema_iff.mp missing
  refine ⟨known, fun inSchema => ?_⟩
  have ends : (above.child field).endsWith field.text = true :=
    FieldPath.endsWith_child_iff.mpr rfl
  rw [unmatched _ inSchema] at ends
  cases ends

end Summary

namespace SectionReport

variable {above : FieldPath} {field : FieldName}

/-- For a field of resume data, a row says what the matrix says, but for the meta-schema, which it
asks for the bare name. -/
theorem presence_rowOf_of_data
    (data : above.child field ∈ inventories.jsonSchema ∨ above.child field ∈ inventories.xsd) :
    (rowOf inventories above field).presence =
      ((PresenceMatrix.ofInventories inventories).presence (above.child field)).set .metaSchema
        (inventories.metaSchema.contains (.field field)) := by
  have declared : (inventories.jsonSchema.contains (above.child field) ||
      inventories.xsd.contains (above.child field)) = true := by
    simpa only [Bool.or_eq_true, SortedSet.contains_iff_mem] using data
  rw [PresenceMatrix.presence_ofInventories, declaredPresence, declared, Bool.true_and,
    NameSet.namesLeaf_child]
  rfl

/-- A row is flagged where the matrix drifts, and where the context has a name for which the schema
has no path in this section. -/
theorem isMismatch_rowOf_iff_drifts :
    (rowOf inventories above field).isMismatch = true ↔
      above.child field ∈ (PresenceMatrix.ofInventories inventories).mismatchPaths ∨
        field.text ∈ inventories.context ∧ above.child field ∉ inventories.jsonSchema := by
  rw [isMismatch_rowOf_iff, PresenceMatrix.mem_mismatchPaths_iff, NameSet.namesLeaf_child,
    ← Bool.not_eq_true, SortedSet.contains_iff_mem]
  tauto

end SectionReport

def streetField : FieldName := ⟨"street", by decide, by simp [isReserved]⟩

def regionField : FieldName := ⟨"region", by decide, by simp [isReserved]⟩

def addressChecklist : Checklist where
  sectionPath := ⟨[
    ⟨⟨"volunteer", by decide, by simp [isReserved]⟩, true⟩,
    ⟨⟨"address", by decide, by simp [isReserved]⟩, false⟩]⟩
  fields := .ofList [streetField, regionField]

/-- Only the schema has the one field of the section, and only the context has the other. -/
def addressInventories : Inventories :=
  .ofTexts ["volunteer[].address.street", "volunteer[].address.city"] ["city", "region"]
    ["city", "street"] ["volunteer[].address.city"]

def addressRow (field : FieldName) : SectionRow :=
  SectionReport.rowOf addressInventories addressChecklist.sectionPath field

theorem addressRow_mem {field : FieldName} (expected : field ∈ [streetField, regionField]) :
    addressRow field ∈ (SectionReport.ofChecklist addressInventories addressChecklist).rows :=
  SectionReport.mem_rows_iff.mpr ⟨field, SortedSet.mem_ofList.mpr expected, rfl⟩

/-- A row has the flags of the matrix for its path in the schema and the XSD, and for its bare name
in the meta-schema.  If its path is in the schema or the XSD, it also has the flag of the context and
is flagged if the matrix drifts.  Otherwise the matrix does not drift, and the row is flagged if the
context has its name. -/
theorem section_rows_agree_with_matrix {checklist : Checklist} {row : SectionRow}
    (member : row ∈ (SectionReport.ofChecklist inventories checklist).rows) :
    let matrix := PresenceMatrix.ofInventories inventories
    row.presence.jsonSchema = (matrix.presence row.path).jsonSchema ∧
    row.presence.xsd = (matrix.presence row.path).xsd ∧
    row.presence.metaSchema = (matrix.presence (.field row.field)).metaSchema ∧
    (row.path ∈ inventories.jsonSchema ∨ row.path ∈ inventories.xsd →
      row.presence.jsonLdContext = (matrix.presence row.path).jsonLdContext ∧
      row.isMismatch = (matrix.presence row.path).isMismatch) ∧
    (row.path ∉ inventories.jsonSchema ∧ row.path ∉ inventories.xsd →
      row.path ∉ matrix.mismatchPaths ∧ (matrix.presence row.path).isMismatch = false ∧
      (row.isMismatch = true ↔ row.field.text ∈ inventories.context)) := by
  intro matrix
  obtain ⟨field, _, rfl⟩ := SectionReport.mem_rows_iff.mp member
  have known (path : FieldPath) : matrix.presence path = declaredPresence inventories path :=
    PresenceMatrix.presence_ofInventories inventories path
  refine ⟨by rw [known]; rfl, by rw [known]; rfl, by rw [known]; rfl, fun data => ?_,
    fun absent => ?_⟩
  · have same := SectionReport.presence_rowOf_of_data data
    exact ⟨by rw [same]; rfl, by rw [SectionRow.isMismatch, same]; rfl⟩
  · obtain ⟨notInSchema, notInXsd⟩ := absent
    have silent : matrix.presence (checklist.sectionPath.child field) = { Presence.absent with
        metaSchema := inventories.metaSchema.contains (checklist.sectionPath.child field) } := by
      rw [known, PresenceMatrix.declaredPresence_eq_iff]
      exact ⟨SortedSet.contains_iff_mem.symm, notInSchema, notInXsd⟩
    have steady : checklist.sectionPath.child field ∉ matrix.mismatchPaths := by
      rw [PresenceMatrix.mem_mismatchPaths_iff]
      tauto
    refine ⟨steady, congrArg Presence.isMismatch silent, ?_⟩
    rw [SectionReport.isMismatch_rowOf_iff_drifts, or_iff_right steady]
    exact and_iff_left notInSchema

theorem address_rows_agree_with_matrix :
    let matrix := PresenceMatrix.ofInventories addressInventories
    let rows := (SectionReport.ofChecklist addressInventories addressChecklist).rows
    let street := addressRow streetField
    let region := addressRow regionField
    (street ∈ rows ∧ street.path ∈ addressInventories.jsonSchema ∧
      street.isMismatch = (matrix.presence street.path).isMismatch) ∧
    (region ∈ rows ∧ region.path ∉ addressInventories.jsonSchema ∧
      region.path ∉ addressInventories.xsd ∧ region.path ∉ matrix.mismatchPaths ∧
      (region.isMismatch = true ↔ region.field.text ∈ addressInventories.context)) := by
  intro matrix rows street region
  have streetListed : street ∈ rows := addressRow_mem (by decide)
  have regionListed : region ∈ rows := addressRow_mem (by decide)
  have inSchema : street.path ∈ addressInventories.jsonSchema :=
    SortedSet.contains_iff_mem.mp (by decide +kernel)
  have notInSchema : region.path ∉ addressInventories.jsonSchema :=
    mt SortedSet.contains_iff_mem.mpr (by decide +kernel)
  have notInXsd : region.path ∉ addressInventories.xsd :=
    mt SortedSet.contains_iff_mem.mpr (by decide +kernel)
  obtain ⟨_, _, _, data, _⟩ := section_rows_agree_with_matrix streetListed
  obtain ⟨_, _, _, _, absent⟩ := section_rows_agree_with_matrix regionListed
  obtain ⟨steady, _, flagged⟩ := absent ⟨notInSchema, notInXsd⟩
  exact ⟨⟨streetListed, inSchema, (data (.inl inSchema)).2⟩,
    regionListed, notInSchema, notInXsd, steady, flagged⟩

/-- Whatever the summary lists of a row, by its path or by its bare name, the row is flagged. -/
theorem summary_findings_are_flagged {checklist : Checklist} {row : SectionRow}
    (member : row ∈ (SectionReport.ofChecklist inventories checklist).rows)
    (listed : row.path ∈ (Summary.ofInventories inventories).onlyInSchema ∨
      row.path ∈ (Summary.ofInventories inventories).onlyInXsd ∨
      row.path ∈ (Summary.ofInventories inventories).missingFromContext ∨
      row.field.text ∈ (Summary.ofInventories inventories).onlyInContext ∨
      row.field.text ∈ (Summary.ofInventories inventories).missingFromSchema) :
    row.isMismatch = true := by
  obtain ⟨field, _, rfl⟩ := SectionReport.mem_rows_iff.mp member
  rw [SectionReport.isMismatch_rowOf_iff_drifts]
  rcases listed with only | only | missing | only | missing
  · exact .inl (Summary.mem_mismatchPaths_of_listed (.inl only))
  · exact .inl (Summary.mem_mismatchPaths_of_listed (.inr (.inl only)))
  · exact .inl (Summary.mem_mismatchPaths_of_listed (.inr (.inr missing)))
  · exact .inr (Summary.known_of_missingFromSchema
      (Summary.mem_missingFromSchema_of_onlyInContext only) _)
  · exact .inr (Summary.known_of_missingFromSchema missing _)

theorem address_findings_are_flagged :
    let summary := Summary.ofInventories addressInventories
    let rows := (SectionReport.ofChecklist addressInventories addressChecklist).rows
    let street := addressRow streetField
    let region := addressRow regionField
    (street ∈ rows ∧ street.path ∈ summary.onlyInSchema ∧ street.isMismatch = true) ∧
    (region ∈ rows ∧ region.field.text ∈ summary.onlyInContext ∧
      region.isMismatch = true) := by
  intro summary rows street region
  have streetListed : street ∈ rows := addressRow_mem (by decide)
  have regionListed : region ∈ rows := addressRow_mem (by decide)
  have streetOnly : street.path ∈ summary.onlyInSchema := by decide +kernel
  have regionOnly : region.field.text ∈ summary.onlyInContext := by decide +kernel
  exact ⟨⟨streetListed, streetOnly, summary_findings_are_flagged streetListed (.inl streetOnly)⟩,
    regionListed, regionOnly,
    summary_findings_are_flagged regionListed (.inr (.inr (.inr (.inl regionOnly))))⟩

end Concord.Drift
