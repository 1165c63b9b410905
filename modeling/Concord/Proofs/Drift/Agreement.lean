import Concord.Proofs.Drift.Matrix
import Concord.Proofs.Drift.Summary

namespace Concord.Drift

/-! The matrix and the summary find the same drift.

The matrix compares the flags of its rows, the summary compares inventories.  The main statement is
that both come to the same paths.
-/

/-- What the lists of paths hold drifts, that of the meta-schema left aside. -/
theorem Summary.mem_mismatchPaths_of_listed {inventories : Inventories} {path : FieldPath}
    (listed : path ∈ (ofInventories inventories).onlyInSchema ∨
      path ∈ (ofInventories inventories).onlyInXsd ∨
      path ∈ (ofInventories inventories).missingFromContext) :
    path ∈ (PresenceMatrix.ofInventories inventories).mismatchPaths := by
  rw [PresenceMatrix.mem_mismatchPaths_iff]
  rcases listed with only | only | missing
  · obtain ⟨inSchema, _, notInXsd⟩ := mem_onlyInSchema_iff.mp only
    exact .inl ⟨inSchema, notInXsd⟩
  · obtain ⟨inXsd, notInSchema, _⟩ := mem_onlyInXsd_iff.mp only
    exact .inr (.inl ⟨inXsd, notInSchema⟩)
  · obtain ⟨inSchema, unnamed⟩ := mem_missingFromContext_iff.mp missing
    by_cases inXsd : path ∈ inventories.xsd
    · exact .inr (.inr ⟨inSchema, inXsd, unnamed⟩)
    · exact .inl ⟨inSchema, inXsd⟩

theorem Summary.onlyInSchema_eq_filter {inventories : Inventories}
    (apart : ∀ path ∈ inventories.jsonSchema, path.render ∉ inventories.context) :
    (ofInventories inventories).onlyInSchema =
      inventories.jsonSchema.toList.filter fun path => !inventories.xsd.contains path := by
  apply List.filter_congr
  intro path member
  have unnamed := SortedSet.contains_eq_false_iff.mpr (apart path member)
  simp [Inventories.declaredBy, Inventories.qualified?, unnamed]

theorem Summary.onlyInXsd_eq_filter {inventories : Inventories}
    (apart : ∀ path ∈ inventories.xsd, path.render ∉ inventories.context) :
    (ofInventories inventories).onlyInXsd =
      inventories.xsd.toList.filter fun path => !inventories.jsonSchema.contains path := by
  apply List.filter_congr
  intro path member
  have unnamed := SortedSet.contains_eq_false_iff.mpr (apart path member)
  simp [Inventories.declaredBy, Inventories.qualified?, unnamed]

/-- A summary leaves out of its lists what the context has as a whole.  Where that hides nothing, its
lists are all the drift there is. -/
theorem PresenceMatrix.mem_mismatchPaths_iff_listed {inventories : Inventories}
    (schemaApart : ∀ path ∈ inventories.jsonSchema, path.render ∉ inventories.context)
    (xsdApart : ∀ path ∈ inventories.xsd, path.render ∉ inventories.context) {path : FieldPath} :
    path ∈ (ofInventories inventories).mismatchPaths ↔
      path ∈ (Summary.ofInventories inventories).onlyInSchema ∨
        path ∈ (Summary.ofInventories inventories).onlyInXsd ∨
        path ∈ (Summary.ofInventories inventories).missingFromContext := by
  refine ⟨fun drifts => ?_, Summary.mem_mismatchPaths_of_listed⟩
  rcases mem_mismatchPaths_iff.mp drifts with ⟨inSchema, notInXsd⟩ | ⟨inXsd, notInSchema⟩ |
    ⟨inSchema, _, unnamed⟩
  · exact .inl (Summary.mem_onlyInSchema_iff.mpr ⟨inSchema, schemaApart path inSchema, notInXsd⟩)
  · exact .inr (.inl (Summary.mem_onlyInXsd_iff.mpr ⟨inXsd, notInSchema, xsdApart path inXsd⟩))
  · exact .inr (.inr (Summary.mem_missingFromContext_iff.mpr ⟨inSchema, unnamed⟩))

namespace PresenceMatrix

/-- The drifting paths are those that only one of the schema and the XSD has, and those that are
missing from the context; each is listed once, in the order of written paths. -/
theorem mismatchPaths_are_differences (inventories : Inventories) :
    (∀ path, path ∈ (ofInventories inventories).mismatchPaths ↔
      (path ∈ inventories.jsonSchema ∧ path ∉ inventories.xsd ∨
        path ∈ inventories.xsd ∧ path ∉ inventories.jsonSchema) ∨
      path ∈ (Summary.ofInventories inventories).missingFromContext) ∧
    (ofInventories inventories).mismatchPaths.Pairwise (· < ·) ∧
    ((ofInventories inventories).mismatches = [] ↔
      inventories.jsonSchema = inventories.xsd ∧
        (Summary.ofInventories inventories).missingFromContext = []) := by
  have differences (path : FieldPath) : path ∈ (ofInventories inventories).mismatchPaths ↔
      (path ∈ inventories.jsonSchema ∧ path ∉ inventories.xsd ∨
        path ∈ inventories.xsd ∧ path ∉ inventories.jsonSchema) ∨
      path ∈ (Summary.ofInventories inventories).missingFromContext := by
    rw [mem_mismatchPaths_iff, Summary.mem_missingFromContext_iff]
    by_cases inXsd : path ∈ inventories.xsd
    · simp [inXsd]
    · by_cases inSchema : path ∈ inventories.jsonSchema <;> simp [inXsd, inSchema]
  refine ⟨differences, mismatchPaths_ascending _, ?_⟩
  rw [← List.map_eq_nil_iff (f := (·.1)), ← mismatchPaths]
  constructor
  · intro none
    have absent (path : FieldPath) := (differences path).not.mp (none ▸ List.not_mem_nil)
    constructor
    · apply SortedSet.ext
      intro path
      have same := (not_or.mp (absent path)).1
      tauto
    · apply List.eq_nil_iff_forall_not_mem.mpr
      exact fun path => (not_or.mp (absent path)).2
  · intro agree
    obtain ⟨same, missing⟩ := agree
    apply List.eq_nil_iff_forall_not_mem.mpr
    intro path
    rw [differences, same, missing]
    simp

end PresenceMatrix

end Concord.Drift
