import Concord.Proofs.Drift.Matrix
import Concord.Proofs.Drift.SectionRows
import Concord.Proofs.Drift.Summary

namespace Concord.Drift

/-! The meta-schema has no say in drift.

Its keywords make rows of their own and share names with fields and with the context.  The views below
are what is left of a matrix and of a section table when the answers for the meta-schema are covered
up.  The main statement compares two runs that differ in nothing but the keywords: both have the same
views, and summaries that differ only in what they say of the meta-schema itself.
-/

def Presence.dataFlags (presence : Presence) : Bool × Bool × Bool :=
  (presence.jsonSchema, presence.jsonLdContext, presence.xsd)

def PresenceMatrix.driftView (matrix : PresenceMatrix) : List (FieldPath × Bool × Bool × Bool) :=
  matrix.mismatches.map fun row => (row.1, row.2.dataFlags)

/-- The field, its path, the verdict, and the flags that the verdict is about. -/
def SectionRow.dataView (row : SectionRow) : FieldName × FieldPath × Bool × Bool × Bool × Bool :=
  (row.field, row.path, row.isMismatch, row.presence.dataFlags)

def SectionReport.dataView (report : SectionReport) :
    FieldPath × List (FieldName × FieldPath × Bool × Bool × Bool × Bool) :=
  (report.sectionPath, report.rows.map (·.dataView))

section Keywords

variable (inventories : Inventories) (keywords : PathSet)

/-- Keywords may add rows, but none that drifts. -/
theorem PresenceMatrix.mismatchPaths_keywords :
    (ofInventories { inventories with metaSchema := keywords }).mismatchPaths =
      (ofInventories inventories).mismatchPaths := by
  apply eq_of_ascending (f := FieldPath.render) (mismatchPaths_ascending _)
    (mismatchPaths_ascending _)
  intro path
  rw [mem_mismatchPaths_iff, mem_mismatchPaths_iff]

theorem PresenceMatrix.driftView_keywords :
    (ofInventories { inventories with metaSchema := keywords }).driftView =
      (ofInventories inventories).driftView := by
  rw [driftView, driftView, mismatches_eq_map, mismatches_eq_map, mismatchPaths_keywords,
    List.map_map, List.map_map]
  rfl

theorem SectionReport.dataView_keywords (checklist : Checklist) :
    (ofChecklist { inventories with metaSchema := keywords } checklist).dataView =
      (ofChecklist inventories checklist).dataView := by
  rw [dataView, dataView, ofChecklist, ofChecklist, List.map_map, List.map_map]
  rfl

end Keywords

/-- Two runs over inventories that differ in the keywords only see the same flags of resume data for
every path and find the same drift, in the matrix and in each section table.  The lists of the
summary about resume data are the same, and so are the totals of the other representations. -/
theorem keywords_never_influence_drift (inventories : Inventories) (keywords : PathSet)
    (checklists : List Checklist) :
    let other := { inventories with metaSchema := keywords }
    let matrix := PresenceMatrix.ofInventories inventories
    let otherMatrix := PresenceMatrix.ofInventories other
    let summary := Summary.ofInventories inventories
    let otherSummary := Summary.ofInventories other
    (∀ path, (otherMatrix.presence path).dataFlags = (matrix.presence path).dataFlags) ∧
    otherMatrix.driftView = matrix.driftView ∧
    (checklists.map fun checklist => (SectionReport.ofChecklist other checklist).dataView) =
      (checklists.map fun checklist => (SectionReport.ofChecklist inventories checklist).dataView) ∧
    otherSummary.onlyInSchema = summary.onlyInSchema ∧
    otherSummary.onlyInContext = summary.onlyInContext ∧
    otherSummary.onlyInXsd = summary.onlyInXsd ∧
    otherSummary.missingFromContext = summary.missingFromContext ∧
    otherSummary.missingFromSchema = summary.missingFromSchema ∧
    (otherSummary.totals.filter (·.1 ≠ .metaSchema)) =
      (summary.totals.filter (·.1 ≠ .metaSchema)) := by
  intro other matrix otherMatrix summary otherSummary
  refine ⟨fun path => ?_, PresenceMatrix.driftView_keywords inventories keywords, ?_,
    rfl, rfl, rfl, rfl, rfl, rfl⟩
  · rw [PresenceMatrix.presence_ofInventories, PresenceMatrix.presence_ofInventories]
    rfl
  · exact List.map_congr_left fun checklist _ =>
      SectionReport.dataView_keywords inventories keywords checklist

end Concord.Drift
