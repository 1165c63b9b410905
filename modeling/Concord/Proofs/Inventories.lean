import Concord.Inventories
import Concord.Proofs.FieldPath.Reading

namespace Concord

/-! Inventories, taken one by one.

Three inventories hold paths and one holds names.  `Inventories.of` gives the one of a representation
as a single kind of value, so that what holds of every representation is said once.
-/

theorem NameSet.namesLeaf_iff {names : NameSet} {path : FieldPath} :
    names.namesLeaf path = true ↔ ∃ leaf, path.leaf? = some leaf ∧ leaf.text ∈ names := by
  rw [namesLeaf]
  cases path.leaf? <;> simp [SortedSet.contains_iff_mem]

/-- What one representation declares. -/
inductive Inventory where
  | paths (set : PathSet)
  | names (set : NameSet)

def Inventory.isEmpty : Inventory → Bool
  | .paths set => set.isEmpty
  | .names set => set.isEmpty

namespace SortedSet

variable {α : Type u} [Keyed α]

theorem eq_empty_of_isEmpty {set : SortedSet α} (empty : set.isEmpty = true) : set = ∅ := by
  obtain ⟨⟨entries, ascending⟩⟩ := set
  obtain rfl : entries = [] := List.isEmpty_iff.mp empty
  rfl

end SortedSet

namespace Inventories

/-- Inventories of written paths and names; a text that is no path is passed over. -/
def ofTexts (jsonSchema context metaSchema xsd : List String) : Inventories :=
  let paths (texts : List String) : PathSet :=
    .ofList (texts.filterMap fun text => (FieldPath.parse text).toOption)
  { jsonSchema := paths jsonSchema
    context := .ofList context
    metaSchema := paths metaSchema
    xsd := paths xsd }

def of (inventories : Inventories) : Representation → Inventory
  | .jsonSchema => .paths inventories.jsonSchema
  | .jsonLdContext => .names inventories.context
  | .metaSchema => .paths inventories.metaSchema
  | .xsd => .paths inventories.xsd

/-- The inventories as if a representation declared nothing. -/
def without (inventories : Inventories) : Representation → Inventories
  | .jsonSchema => { inventories with jsonSchema := ∅ }
  | .jsonLdContext => { inventories with context := ∅ }
  | .metaSchema => { inventories with metaSchema := ∅ }
  | .xsd => { inventories with xsd := ∅ }

theorem ext_of {inventories other : Inventories}
    (same : ∀ representation, inventories.of representation = other.of representation) :
    inventories = other := by
  cases inventories
  cases other
  rw [mk.injEq]
  exact ⟨Inventory.paths.inj (same .jsonSchema), Inventory.names.inj (same .jsonLdContext),
    Inventory.paths.inj (same .metaSchema), Inventory.paths.inj (same .xsd)⟩

theorem of_without_of_ne {inventories : Inventories} {representation dropped : Representation}
    (different : representation ≠ dropped) :
    (inventories.without dropped).of representation = inventories.of representation := by
  cases dropped <;> cases representation <;> first | rfl | exact absurd rfl different

theorem of_without_of_isEmpty {inventories other : Inventories} {dropped : Representation}
    (empty : (inventories.of dropped).isEmpty = true) :
    (other.without dropped).of dropped = inventories.of dropped := by
  cases dropped
  · exact congrArg Inventory.paths (SortedSet.eq_empty_of_isEmpty empty).symm
  · exact congrArg Inventory.names (SortedSet.eq_empty_of_isEmpty empty).symm
  · exact congrArg Inventory.paths (SortedSet.eq_empty_of_isEmpty empty).symm
  · exact congrArg Inventory.paths (SortedSet.eq_empty_of_isEmpty empty).symm

theorem total_eq_zero_of_isEmpty {inventories : Inventories} {representation : Representation}
    (empty : (inventories.of representation).isEmpty = true) :
    inventories.total representation = 0 := by
  cases representation <;>
    exact congrArg SortedSet.size (SortedSet.eq_empty_of_isEmpty empty)

/-- Inventories that agree but for one, which is empty on the left. -/
theorem eq_without {inventories other : Inventories} {dropped : Representation}
    (same : ∀ representation, representation ≠ dropped →
      inventories.of representation = other.of representation)
    (empty : (inventories.of dropped).isEmpty = true) : inventories = other.without dropped := by
  apply ext_of
  intro representation
  by_cases here : representation = dropped
  · rw [here, of_without_of_isEmpty empty]
  · rw [of_without_of_ne here, same representation here]

end Inventories

end Concord
