import Concord.Drift.Summary
import Concord.Proofs.FieldPath.Reading

namespace Concord.Drift.Summary

/-! The lists of a summary, in terms of membership in the inventories. -/

variable {inventories : Inventories}

theorem endsSome_iff {paths : PathSet} {name : String} :
    endsSome paths name = true ↔ ∃ path ∈ paths, path.endsWith name = true := by
  simp only [endsSome, List.any_eq_true, SortedSet.mem_toList]

theorem mem_onlyInSchema_iff {path : FieldPath} :
    path ∈ (ofInventories inventories).onlyInSchema ↔
      path ∈ inventories.jsonSchema ∧ path.render ∉ inventories.context ∧
        path ∉ inventories.xsd := by
  simp [ofInventories, Inventories.declaredBy, Inventories.qualified?, SortedSet.mem_toList,
    ← SortedSet.contains_iff_mem]

theorem mem_onlyInXsd_iff {path : FieldPath} :
    path ∈ (ofInventories inventories).onlyInXsd ↔
      path ∈ inventories.xsd ∧ path ∉ inventories.jsonSchema ∧
        path.render ∉ inventories.context := by
  simp [ofInventories, Inventories.declaredBy, Inventories.qualified?, SortedSet.mem_toList,
    ← SortedSet.contains_iff_mem]

theorem mem_onlyInMeta_iff {path : FieldPath} :
    path ∈ (ofInventories inventories).onlyInMeta ↔
      path ∈ inventories.metaSchema ∧ path ∉ inventories.jsonSchema ∧
        path.render ∉ inventories.context ∧ path ∉ inventories.xsd := by
  simp [ofInventories, Inventories.declaredBy, Inventories.qualified?, SortedSet.mem_toList,
    ← SortedSet.contains_iff_mem]

theorem mem_onlyInContext_iff {name : String} :
    name ∈ (ofInventories inventories).onlyInContext ↔
      name ∈ inventories.context ∧ (∀ path ∈ inventories.jsonSchema, path.endsWith name = false) ∧
        ∀ path ∈ inventories.xsd, path.endsWith name = false := by
  simp only [ofInventories, List.mem_filter, SortedSet.mem_toList, Bool.and_eq_true,
    Bool.not_eq_true', ← Bool.not_eq_true, endsSome_iff, not_exists, not_and]

theorem mem_missingFromContext_iff {path : FieldPath} :
    path ∈ (ofInventories inventories).missingFromContext ↔
      path ∈ inventories.jsonSchema ∧ inventories.context.namesLeaf path = false := by
  rw [ofInventories, List.mem_filter, SortedSet.mem_toList, Bool.not_eq_true']

theorem mem_missingFromSchema_iff {name : String} :
    name ∈ (ofInventories inventories).missingFromSchema ↔
      name ∈ inventories.context ∧ ∀ path ∈ inventories.jsonSchema, path.endsWith name = false := by
  simp only [ofInventories, List.mem_filter, SortedSet.mem_toList, Bool.not_eq_true',
    ← Bool.not_eq_true, endsSome_iff, not_exists, not_and]

theorem mem_missingFromSchema_of_onlyInContext {name : String}
    (only : name ∈ (ofInventories inventories).onlyInContext) :
    name ∈ (ofInventories inventories).missingFromSchema := by
  obtain ⟨known, unmatched, _⟩ := mem_onlyInContext_iff.mp only
  exact mem_missingFromSchema_iff.mpr ⟨known, unmatched⟩

end Concord.Drift.Summary
