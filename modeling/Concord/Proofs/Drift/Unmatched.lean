import Concord.Proofs.Drift.Summary
import Concord.Proofs.FieldPath.Ending

namespace Concord

/-! The fields of the schema that a context does not name, and the names of a context that the schema
does not have.

Both lists come from one relation between paths and names, although one of them looks up the last name
of each path and the other goes through all paths for each name.  The main statement says that they
are the two sides of it that stay unmatched.
-/

/-- A path of the schema that ends with a name of the context. -/
structure Inventories.Matches (inventories : Inventories) (path : FieldPath) (name : String) :
    Prop where
  declared : path ∈ inventories.jsonSchema
  named : name ∈ inventories.context
  ends : path.endsWith name = true

namespace Drift.Summary

variable {inventories : Inventories} {path : FieldPath} {name : String}

theorem not_mem_missingFromContext_iff (declared : path ∈ inventories.jsonSchema) :
    path ∉ (ofInventories inventories).missingFromContext ↔
      ∃ name, inventories.Matches path name := by
  rw [mem_missingFromContext_iff, not_and, Bool.not_eq_false, forall_prop_of_true declared,
    NameSet.namesLeaf_iff_exists_endsWith]
  refine exists_congr fun name => ?_
  constructor
  · intro found
    exact ⟨declared, found.1, found.2⟩
  · intro matched
    exact ⟨matched.named, matched.ends⟩

theorem not_mem_missingFromSchema_iff (named : name ∈ inventories.context) :
    name ∉ (ofInventories inventories).missingFromSchema ↔
      ∃ path, inventories.Matches path name := by
  simp only [mem_missingFromSchema_iff, not_and, forall_prop_of_true named, not_forall,
    Bool.not_eq_false]
  refine exists_congr fun path => ?_
  constructor
  · intro found
    obtain ⟨declared, ends⟩ := found
    exact ⟨declared, named, ends⟩
  · intro matched
    exact ⟨matched.declared, matched.ends⟩

/-- What the XSD lacks too is only in the context. -/
theorem mem_onlyInContext_iff_missing :
    name ∈ (ofInventories inventories).onlyInContext ↔
      name ∈ (ofInventories inventories).missingFromSchema ∧
        ¬ ∃ path ∈ inventories.xsd, path.endsWith name = true := by
  simp only [mem_onlyInContext_iff, mem_missingFromSchema_iff, not_exists, not_and,
    Bool.not_eq_true, and_assoc]

/-- A path of the schema is missing from the context, and a name of the context from the schema, if
and only if nothing on the other side matches it, so that of a match neither is listed.  What is only
in the context are the names missing from the schema, less those that some path of the XSD ends with.
All three lists are strictly ascending. -/
theorem missing_lists_are_unmatched_sides (inventories : Inventories) :
    let summary := ofInventories inventories
    (∀ path ∈ inventories.jsonSchema, path ∉ summary.missingFromContext ↔
      ∃ name, inventories.Matches path name) ∧
    (∀ name ∈ inventories.context, name ∉ summary.missingFromSchema ↔
      ∃ path, inventories.Matches path name) ∧
    (∀ path name, inventories.Matches path name →
      path ∉ summary.missingFromContext ∧ name ∉ summary.missingFromSchema) ∧
    (∀ path ∈ summary.missingFromContext, path ∈ inventories.jsonSchema) ∧
    (∀ name ∈ summary.missingFromSchema, name ∈ inventories.context) ∧
    (∀ name, name ∈ summary.onlyInContext ↔
      name ∈ summary.missingFromSchema ∧ ¬ ∃ path ∈ inventories.xsd, path.endsWith name = true) ∧
    summary.missingFromContext.Pairwise (· < ·) ∧ summary.missingFromSchema.Pairwise (· < ·) ∧
    summary.onlyInContext.Pairwise (· < ·) := by
  intro summary
  refine ⟨fun path => not_mem_missingFromContext_iff, fun name => not_mem_missingFromSchema_iff,
    fun path name matched => ⟨?_, ?_⟩, fun path listed => (mem_missingFromContext_iff.mp listed).1,
    fun name listed => (mem_missingFromSchema_iff.mp listed).1,
    fun name => mem_onlyInContext_iff_missing, inventories.jsonSchema.toList_ascending.filter _,
    inventories.context.toList_ascending.filter _, inventories.context.toList_ascending.filter _⟩
  · exact (not_mem_missingFromContext_iff matched.declared).mpr ⟨name, matched⟩
  · exact (not_mem_missingFromSchema_iff matched.named).mpr ⟨path, matched⟩

end Drift.Summary

end Concord
