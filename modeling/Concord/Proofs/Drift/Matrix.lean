import Concord.Drift.Presence
import Concord.Proofs.Inventories

namespace Concord.Drift

/-! The rows of a presence matrix.

A row is made for a path by each of three inventories in turn and then marked for the context.  The
main statements say what comes of this without the order of the steps: which paths have a row, what
the matrix says of a path with or without one, and when the representations of resume data disagree
on it.
-/

/-- What the inventories say of a path. -/
def declaredPresence (inventories : Inventories) (path : FieldPath) : Presence where
  jsonSchema := inventories.jsonSchema.contains path
  jsonLdContext :=
    (inventories.jsonSchema.contains path || inventories.xsd.contains path) &&
      inventories.context.namesLeaf path
  metaSchema := inventories.metaSchema.contains path
  xsd := inventories.xsd.contains path

/-- Whether a representation that qualifies its fields has the path. -/
def isDeclared (inventories : Inventories) (path : FieldPath) : Bool :=
  inventories.jsonSchema.contains path || inventories.metaSchema.contains path ||
    inventories.xsd.contains path

namespace Presence

theorem set_set (presence : Presence) (representation : Representation) (present : Bool) :
    (presence.set representation present).set representation present =
      presence.set representation present := by
  cases representation <;> rfl

end Presence

namespace PresenceMatrix

private theorem get?_foldl_declare (representation : Representation)
    (rows : Table FieldPath Presence) (paths : List FieldPath) (path : FieldPath) :
    (paths.foldl (fun rows path =>
      rows.alter path fun presence => (presence.getD .absent).set representation true)
      rows).get? path =
      if path ∈ paths then some (((rows.get? path).getD .absent).set representation true)
      else rows.get? path := by
  induction paths generalizing rows with
  | nil => simp
  | cons head rest ih =>
      rw [List.foldl_cons, ih, Table.get?_alter]
      by_cases same : head = path
      · subst head
        by_cases again : path ∈ rest <;> simp [again, Presence.set_set]
      · have different : key head ≠ key path := fun equal => same (key_eq_iff.mp equal)
        simp [different, Ne.symm same]

theorem get?_declare (representation : Representation) (rows : Table FieldPath Presence)
    (paths : PathSet) (path : FieldPath) :
    (declare representation rows paths).get? path =
      if paths.contains path then some (((rows.get? path).getD .absent).set representation true)
      else rows.get? path := by
  rw [declare, get?_foldl_declare]
  by_cases member : path ∈ paths
  · rw [if_pos (SortedSet.mem_toList.mpr member), if_pos (SortedSet.contains_iff_mem.mpr member)]
  · rw [if_neg (mt SortedSet.mem_toList.mp member),
      if_neg (mt SortedSet.contains_iff_mem.mp member)]

theorem get?_rows (inventories : Inventories) (path : FieldPath) :
    (ofInventories inventories).rows.get? path =
      if isDeclared inventories path then some (declaredPresence inventories path) else none := by
  simp only [ofInventories, reconcile, Table.get?_mapValues, get?_declare, Table.get?_empty]
  unfold isDeclared declaredPresence Presence.isDataField
  cases inventories.jsonSchema.contains path <;> cases inventories.metaSchema.contains path <;>
    cases inventories.xsd.contains path <;> rfl

theorem mem_rows_iff {inventories : Inventories} {path : FieldPath} {presence : Presence} :
    (path, presence) ∈ (ofInventories inventories).rows.entries ↔
      isDeclared inventories path = true ∧ presence = declaredPresence inventories path := by
  rw [← Table.get?_eq_some_iff, get?_rows]
  by_cases declared : isDeclared inventories path = true
  · simp [declared, eq_comm]
  · simp [declared]

theorem isDeclared_iff {inventories : Inventories} {path : FieldPath} :
    isDeclared inventories path = true ↔
      path ∈ inventories.jsonSchema ∨ path ∈ inventories.metaSchema ∨ path ∈ inventories.xsd := by
  simp only [isDeclared, Bool.or_eq_true, SortedSet.contains_iff_mem, or_assoc]

theorem mem_keys_iff {inventories : Inventories} {path : FieldPath} :
    path ∈ (ofInventories inventories).rows.keys ↔
      path ∈ inventories.jsonSchema ∨ path ∈ inventories.metaSchema ∨ path ∈ inventories.xsd := by
  rw [Table.mem_keys_iff_isSome_get?, get?_rows, ← isDeclared_iff]
  cases isDeclared inventories path <;> simp

theorem keys_ascending (matrix : PresenceMatrix) : matrix.rows.keys.Pairwise (· < ·) :=
  List.pairwise_map.mpr matrix.rows.ascending

theorem keys_reconcile (names : NameSet) (rows : Table FieldPath Presence) :
    (reconcile names rows).keys = rows.keys := by
  rw [reconcile, Table.keys, Table.mapValues, List.map_map]
  rfl

theorem presence_ofInventories (inventories : Inventories) (path : FieldPath) :
    (ofInventories inventories).presence path = declaredPresence inventories path := by
  rw [presence, get?_rows]
  unfold isDeclared declaredPresence
  cases inventories.jsonSchema.contains path <;> cases inventories.metaSchema.contains path <;>
    cases inventories.xsd.contains path <;> rfl

/-- A path outside the resume data has no flag but perhaps that of the meta-schema. -/
theorem declaredPresence_eq_iff (inventories : Inventories) (path : FieldPath) (keyword : Bool) :
    declaredPresence inventories path = { Presence.absent with metaSchema := keyword } ↔
      (path ∈ inventories.metaSchema ↔ keyword = true) ∧ path ∉ inventories.jsonSchema ∧
        path ∉ inventories.xsd := by
  simp only [← SortedSet.contains_iff_mem, declaredPresence, Presence.absent]
  cases inventories.jsonSchema.contains path <;> cases inventories.metaSchema.contains path <;>
    cases inventories.xsd.contains path <;> cases keyword <;> simp

/-- The rows are the paths that a qualified representation declares, each once and in the order of
written paths; a context neither adds a row nor takes one away.  A row, and the answer for any
path, says of each qualified representation whether it has the path, and of the context whether it
knows the last name of a path that the schema or the XSD has.  A path that no qualified
representation declares is absent, and one that only the meta-schema declares has no other flag. -/
theorem rows_reconcile_inventories (inventories : Inventories) :
    (∀ path, path ∈ (ofInventories inventories).rows.keys ↔
      path ∈ inventories.jsonSchema ∨ path ∈ inventories.metaSchema ∨ path ∈ inventories.xsd) ∧
    (ofInventories inventories).rows.keys.Pairwise (· < ·) ∧
    (∀ names, (ofInventories { inventories with context := names }).rows.keys =
      (ofInventories inventories).rows.keys) ∧
    (∀ path presence, (path, presence) ∈ (ofInventories inventories).rows.entries ↔
      path ∈ (ofInventories inventories).rows.keys ∧
        presence = (ofInventories inventories).presence path) ∧
    (∀ path,
      let presence := (ofInventories inventories).presence path
      (presence.jsonSchema = true ↔ path ∈ inventories.jsonSchema) ∧
      (presence.metaSchema = true ↔ path ∈ inventories.metaSchema) ∧
      (presence.xsd = true ↔ path ∈ inventories.xsd) ∧
      (presence.jsonLdContext = true ↔
        (path ∈ inventories.jsonSchema ∨ path ∈ inventories.xsd) ∧
          ∃ leaf, path.leaf? = some leaf ∧ leaf.text ∈ inventories.context)) ∧
    (∀ path, (ofInventories inventories).presence path = .absent ↔
      path ∉ inventories.jsonSchema ∧ path ∉ inventories.metaSchema ∧ path ∉ inventories.xsd) ∧
    (∀ path,
      (ofInventories inventories).presence path = { Presence.absent with metaSchema := true } ↔
        path ∈ inventories.metaSchema ∧ path ∉ inventories.jsonSchema ∧
          path ∉ inventories.xsd) := by
  refine ⟨fun path => mem_keys_iff, keys_ascending _, fun names => ?_, fun path presence => ?_,
    fun path => ?_, fun path => ?_, fun path => ?_⟩
  · simp only [ofInventories, keys_reconcile]
  · rw [mem_rows_iff, mem_keys_iff, isDeclared_iff, presence_ofInventories]
  · rw [presence_ofInventories, ← NameSet.namesLeaf_iff]
    simp only [declaredPresence, Bool.and_eq_true, Bool.or_eq_true, SortedSet.contains_iff_mem,
      and_self]
  · rw [presence_ofInventories]
    refine (declaredPresence_eq_iff inventories path false).trans ?_
    simp only [Bool.false_eq_true, iff_false, and_left_comm]
  · rw [presence_ofInventories, declaredPresence_eq_iff]
    simp only [iff_true]

/-- The paths of the rows on which the representations of resume data disagree. -/
def mismatchPaths (matrix : PresenceMatrix) : List FieldPath := matrix.mismatches.map (·.1)

theorem mismatchPaths_ascending (matrix : PresenceMatrix) : matrix.mismatchPaths.Pairwise (· < ·) :=
  List.pairwise_map.mpr (matrix.rows.ascending.filter _)

theorem mismatchPaths_nodup (matrix : PresenceMatrix) : matrix.mismatchPaths.Nodup := by
  apply matrix.mismatchPaths_ascending.imp
  intro path other smaller same
  subst other
  exact String.lt_irrefl path.render smaller

theorem mismatches_eq_map (inventories : Inventories) :
    (ofInventories inventories).mismatches =
      (ofInventories inventories).mismatchPaths.map fun path =>
        (path, declaredPresence inventories path) := by
  rw [mismatchPaths, List.map_map]
  refine (List.map_id _).symm.trans (List.map_congr_left fun row member => ?_)
  obtain ⟨_, same⟩ := mem_rows_iff.mp (List.mem_filter.mp member).1
  exact Prod.ext rfl same

/-- Resume data is described by the schema, the XSD and the context: a path drifts if one of the
first two lacks it, or if both have it and the context does not know its name. -/
theorem mem_mismatchPaths_iff {inventories : Inventories} {path : FieldPath} :
    path ∈ (ofInventories inventories).mismatchPaths ↔
      (path ∈ inventories.jsonSchema ∧ path ∉ inventories.xsd) ∨
      (path ∈ inventories.xsd ∧ path ∉ inventories.jsonSchema) ∨
      (path ∈ inventories.jsonSchema ∧ path ∈ inventories.xsd ∧
        inventories.context.namesLeaf path = false) := by
  have shown : path ∈ (ofInventories inventories).mismatchPaths ↔
      isDeclared inventories path = true ∧
        (declaredPresence inventories path).isMismatch = true := by
    rw [mismatchPaths, List.mem_map]
    constructor
    · intro drifts
      obtain ⟨⟨path, presence⟩, member, rfl⟩ := drifts
      obtain ⟨row, mismatch⟩ := List.mem_filter.mp member
      obtain ⟨declared, rfl⟩ := mem_rows_iff.mp row
      exact ⟨declared, mismatch⟩
    · intro flagged
      obtain ⟨declared, mismatch⟩ := flagged
      exact ⟨_, List.mem_filter.mpr ⟨mem_rows_iff.mpr ⟨declared, rfl⟩, mismatch⟩, rfl⟩
  rw [shown, ← SortedSet.contains_iff_mem, ← SortedSet.contains_iff_mem]
  unfold isDeclared declaredPresence Presence.isMismatch
  cases inventories.jsonSchema.contains path <;> cases inventories.metaSchema.contains path <;>
    cases inventories.xsd.contains path <;> cases inventories.context.namesLeaf path <;> decide

end PresenceMatrix

end Concord.Drift
