import Concord.Proofs.Drift.Matrix
import Concord.Proofs.Drift.Summary

namespace Concord

/-! Contexts that name more.

A field that is declared nowhere agrees with itself, so that a flag more could set a row at odds with
the others.  The flag of the context is only raised for data fields, and there it can only mend what
the schema and the XSD agree on.  The main statement compares two runs that differ in nothing but
the context, of which one has all names of the other.
-/

variable {inventories : Inventories} {names : NameSet}

theorem NameSet.namesLeaf_of_subset {known : NameSet} (grows : ∀ name ∈ known, name ∈ names)
    {path : FieldPath} (named : known.namesLeaf path = true) : names.namesLeaf path = true := by
  obtain ⟨leaf, last, member⟩ := namesLeaf_iff.mp named
  exact namesLeaf_iff.mpr ⟨leaf, last, grows _ member⟩

theorem NameSet.namesLeaf_and_not_iff {known : NameSet} {path : FieldPath} :
    names.namesLeaf path = true ∧ known.namesLeaf path = false ↔
      ∃ leaf, path.leaf? = some leaf ∧ leaf.text ∈ names ∧ leaf.text ∉ known := by
  unfold namesLeaf
  cases path.leaf? with
  | none => simp
  | some leaf => simp [SortedSet.contains_iff_mem, SortedSet.contains_eq_false_iff]

theorem Inventories.declaredBy_of_subset (grows : ∀ name ∈ inventories.context, name ∈ names)
    {path : FieldPath} {others : List Representation}
    (declared : inventories.declaredBy path others = true) :
    { inventories with context := names }.declaredBy path others = true := by
  obtain ⟨representation, listed, found⟩ := List.any_eq_true.mp declared
  refine List.any_eq_true.mpr ⟨representation, listed, ?_⟩
  cases representation with
  | jsonLdContext =>
      exact SortedSet.contains_iff_mem.mpr (grows _ (SortedSet.contains_iff_mem.mp found))
  | _ => exact found

namespace Drift

theorem filter_not_sublist {narrow wide : α → Bool} (weaker : ∀ a, narrow a = true → wide a = true)
    (items : List α) :
    (items.filter fun a => !wide a).Sublist (items.filter fun a => !narrow a) := by
  apply List.monotone_filter_right
  intro a
  simp only [Bool.not_eq_true']
  contrapose!
  simpa using weaker a

/-- What still drifts are the paths that drifted, but for those that the schema and the XSD share
and that the context now names. -/
theorem PresenceMatrix.mismatchPaths_of_subset
    (grows : ∀ name ∈ inventories.context, name ∈ names) :
    (ofInventories { inventories with context := names }).mismatchPaths =
      (ofInventories inventories).mismatchPaths.filter fun path =>
        !(inventories.jsonSchema.contains path && inventories.xsd.contains path &&
          names.namesLeaf path) := by
  apply eq_of_ascending (f := FieldPath.render) (mismatchPaths_ascending _)
    ((mismatchPaths_ascending _).filter _)
  intro path
  have kept : inventories.context.namesLeaf path = true → names.namesLeaf path = true :=
    NameSet.namesLeaf_of_subset grows
  simp only [mem_mismatchPaths_iff, List.mem_filter, ← SortedSet.contains_iff_mem]
  revert kept
  cases inventories.jsonSchema.contains path <;> cases inventories.xsd.contains path <;>
    cases inventories.context.namesLeaf path <;> cases names.namesLeaf path <;> decide

/-- The old names among those of a list about the larger context. -/
theorem filter_known_filter (grows : ∀ name ∈ inventories.context, name ∈ names)
    (listed : String → Bool) :
    (names.toList.filter listed).filter inventories.context.contains =
      inventories.context.toList.filter listed := by
  rw [List.filter_comm, SortedSet.filter_contains_toList grows]

/-- A run whose context has all the names of another one, and perhaps more, has the same rows with
the same flags but for those of the context.  Nothing drifts that did not drift before, and what no
longer drifts are the paths of both the schema and the XSD whose last name is new to the context.
The lists of paths lose items at most, and of the old names the same ones are listed. -/
theorem growing_context_never_adds_drift
    (grows : ∀ name ∈ inventories.context, name ∈ names) :
    let grown := { inventories with context := names }
    let matrix := PresenceMatrix.ofInventories inventories
    let grownMatrix := PresenceMatrix.ofInventories grown
    let summary := Summary.ofInventories inventories
    let grownSummary := Summary.ofInventories grown
    grownMatrix.rows.keys = matrix.rows.keys ∧
    (∀ path, (grownMatrix.presence path).set .jsonLdContext false =
      (matrix.presence path).set .jsonLdContext false) ∧
    grownMatrix.mismatchPaths.Sublist matrix.mismatchPaths ∧
    (∀ path, path ∈ matrix.mismatchPaths ∧ path ∉ grownMatrix.mismatchPaths ↔
      path ∈ inventories.jsonSchema ∧ path ∈ inventories.xsd ∧
        ∃ leaf, path.leaf? = some leaf ∧ leaf.text ∈ names ∧ leaf.text ∉ inventories.context) ∧
    grownSummary.onlyInSchema.Sublist summary.onlyInSchema ∧
    grownSummary.onlyInXsd.Sublist summary.onlyInXsd ∧
    grownSummary.onlyInMeta.Sublist summary.onlyInMeta ∧
    grownSummary.missingFromContext.Sublist summary.missingFromContext ∧
    grownSummary.onlyInContext.filter inventories.context.contains = summary.onlyInContext ∧
    grownSummary.missingFromSchema.filter inventories.context.contains =
      summary.missingFromSchema := by
  intro grown matrix grownMatrix summary grownSummary
  have hidden (others : List Representation) (path : FieldPath) :
      inventories.declaredBy path others = true → grown.declaredBy path others = true :=
    Inventories.declaredBy_of_subset grows
  have mended : grownMatrix.mismatchPaths = _ := PresenceMatrix.mismatchPaths_of_subset grows
  refine ⟨?_, fun path => ?_, ?_, fun path => ?_, filter_not_sublist (hidden _) _,
    filter_not_sublist (hidden _) _, filter_not_sublist (hidden _) _,
    filter_not_sublist (fun _ => NameSet.namesLeaf_of_subset grows) _,
    filter_known_filter grows _, filter_known_filter grows _⟩
  · simp only [grownMatrix, matrix, PresenceMatrix.ofInventories, PresenceMatrix.keys_reconcile]
    rfl
  · rw [PresenceMatrix.presence_ofInventories, PresenceMatrix.presence_ofInventories]
    rfl
  · rw [mended]
    exact List.filter_sublist
  · rw [mended, List.mem_filter, PresenceMatrix.mem_mismatchPaths_iff,
      ← NameSet.namesLeaf_and_not_iff, ← SortedSet.contains_iff_mem, ← SortedSet.contains_iff_mem]
    cases inventories.jsonSchema.contains path <;> cases inventories.xsd.contains path <;>
      cases inventories.context.namesLeaf path <;> cases names.namesLeaf path <;> decide

/-- The schema and the XSD share a city and a role, and the context knows neither name. -/
def sharedInventories : Inventories :=
  .ofTexts ["basics.location.city", "work[].role", "work[].url"] ["url", "title"] ["title"]
    ["basics.location.city", "work[].role"]

def grownNames : NameSet := .ofList ["city", "street", "title", "url"]

theorem naming_city_mends_drift :
    let grown := { sharedInventories with context := grownNames }
    let before := PresenceMatrix.ofInventories sharedInventories
    let after := PresenceMatrix.ofInventories grown
    (∀ name ∈ sharedInventories.context, name ∈ grownNames) ∧
    before.mismatchPaths.map (·.render) = ["basics.location.city", "work[].role", "work[].url"] ∧
    after.mismatchPaths.Sublist before.mismatchPaths ∧
    after.mismatchPaths.map (·.render) = ["work[].role", "work[].url"] ∧
    (Summary.ofInventories grown).onlyInContext.filter sharedInventories.context.contains =
      (Summary.ofInventories sharedInventories).onlyInContext ∧
    (Summary.ofInventories grown).onlyInContext = ["street", "title"] := by
  intro grown before after
  have grows : ∀ name ∈ sharedInventories.context, name ∈ grownNames := by
    change ∀ name ∈ sharedInventories.context.toList, name ∈ grownNames.toList
    decide +kernel
  obtain ⟨_, _, fewer, _, _, _, _, _, listed, _⟩ := growing_context_never_adds_drift grows
  exact ⟨grows, by decide +kernel, fewer, by decide +kernel, listed, by decide +kernel⟩

end Drift

end Concord
