import Concord.Proofs.Drift.Matrix
import Concord.Proofs.Drift.Summary

namespace Concord.Drift

/-! The rows of a matrix, told apart by the lists of a summary.

Three lists of a summary hold what only the schema, only the XSD or only the meta-schema declares.
They leave out what the schema and the XSD share, and each path whose whole written form is a name of
the context.  The main statement is that these are all the cases and that no two of them overlap, so
that the five sizes add up to the size of the matrix.
-/

/-- How a summary accounts for a row. -/
inductive RowClass where
  | onlyInSchema
  | onlyInXsd
  | onlyInMeta
  | shared
  | contextName
deriving DecidableEq, Repr

namespace RowClass

/-- The paths of a class.  What the context hides from the lists is looked for in the matrix, since
a context by itself declares no path. -/
def paths (inventories : Inventories) : RowClass → List FieldPath
  | .onlyInSchema => (Summary.ofInventories inventories).onlyInSchema
  | .onlyInXsd => (Summary.ofInventories inventories).onlyInXsd
  | .onlyInMeta => (Summary.ofInventories inventories).onlyInMeta
  | .shared => inventories.jsonSchema.toList.filter inventories.xsd.contains
  | .contextName => (PresenceMatrix.ofInventories inventories).rows.keys.filter fun path =>
      !(inventories.jsonSchema.contains path && inventories.xsd.contains path) &&
        inventories.context.contains path.render

/-- The class of a declared path, decided by one question after the other. -/
def ofPath (inventories : Inventories) (path : FieldPath) : RowClass :=
  if inventories.jsonSchema.contains path && inventories.xsd.contains path then .shared
  else if inventories.context.contains path.render then .contextName
  else if inventories.jsonSchema.contains path then .onlyInSchema
  else if inventories.xsd.contains path then .onlyInXsd
  else .onlyInMeta

variable {inventories : Inventories} {rowClass : RowClass}

theorem mem_paths_iff {path : FieldPath} :
    path ∈ rowClass.paths inventories ↔
      path ∈ (PresenceMatrix.ofInventories inventories).rows.keys ∧
        ofPath inventories path = rowClass := by
  have row : path ∈ (PresenceMatrix.ofInventories inventories).rows.keys ↔
      path ∈ inventories.jsonSchema ∨ path ∈ inventories.metaSchema ∨ path ∈ inventories.xsd :=
    PresenceMatrix.mem_keys_iff
  cases rowClass <;>
    simp only [paths, Summary.mem_onlyInSchema_iff, Summary.mem_onlyInXsd_iff,
      Summary.mem_onlyInMeta_iff, List.mem_filter, SortedSet.mem_toList, row, ofPath,
      ← SortedSet.contains_iff_mem]
  all_goals
    cases inventories.jsonSchema.contains path <;> cases inventories.metaSchema.contains path <;>
      cases inventories.xsd.contains path <;> cases inventories.context.contains path.render <;>
      decide

theorem paths_ascending (rowClass : RowClass) :
    (rowClass.paths inventories).Pairwise (· < ·) := by
  cases rowClass with
  | onlyInSchema | shared => exact inventories.jsonSchema.toList_ascending.filter _
  | onlyInXsd => exact inventories.xsd.toList_ascending.filter _
  | onlyInMeta => exact inventories.metaSchema.toList_ascending.filter _
  | contextName => exact (PresenceMatrix.keys_ascending _).filter _

/-- Wherever its listing comes from, a class is listed as the rows are. -/
theorem paths_eq_filter (rowClass : RowClass) :
    rowClass.paths inventories =
      (PresenceMatrix.ofInventories inventories).rows.keys.filter
        (ofPath inventories · = rowClass) := by
  apply eq_of_ascending (f := FieldPath.render) rowClass.paths_ascending
    ((PresenceMatrix.keys_ascending _).filter _)
  intro path
  rw [mem_paths_iff, List.mem_filter, decide_eq_true_eq]

theorem add_length_filter_eq_length (classOf : α → RowClass) (items : List α) :
    let count (rowClass : RowClass) := (items.filter (classOf · = rowClass)).length
    count .onlyInSchema + count .onlyInXsd + count .onlyInMeta + count .shared +
      count .contextName = items.length := by
  induction items with
  | nil => rfl
  | cons item rest ih =>
      simp only [List.filter_cons, decide_eq_true_eq, List.length_cons] at ih ⊢
      cases classOf item <;> simp <;> omega

end RowClass

/-- Each row is in exactly one class, and a class holds nothing but rows, in the order of written
paths.  The sizes of the classes therefore add up to the number of rows. -/
theorem rows_stand_in_one_class (inventories : Inventories) :
    let matrix := PresenceMatrix.ofInventories inventories
    let size (rowClass : RowClass) := (rowClass.paths inventories).length
    (∀ path, path ∈ matrix.rows.keys ↔
      ∃! rowClass : RowClass, path ∈ rowClass.paths inventories) ∧
    (∀ rowClass : RowClass, rowClass.paths inventories ⊆ matrix.rows.keys) ∧
    (∀ rowClass : RowClass, (rowClass.paths inventories).Pairwise (· < ·)) ∧
    size .onlyInSchema + size .onlyInXsd + size .onlyInMeta + size .shared +
      size .contextName = matrix.size := by
  intro matrix size
  refine ⟨fun path => ?_, fun rowClass path member => ?_, RowClass.paths_ascending, ?_⟩
  · simp only [RowClass.mem_paths_iff]
    constructor
    · intro row
      exact ⟨_, ⟨row, rfl⟩, fun other placed => placed.2.symm⟩
    · intro placed
      obtain ⟨_, ⟨row, _⟩, _⟩ := placed
      exact row
  · exact (RowClass.mem_paths_iff.mp member).1
  · have rows : matrix.size = matrix.rows.keys.length := (List.length_map _).symm
    simp only [size, RowClass.paths_eq_filter, rows]
    exact RowClass.add_length_filter_eq_length _ _

/-- No class is superfluous. -/
example :
    let inventories := Inventories.ofTexts ["basics.name", "work[].url", "title"] ["name", "title"]
      ["title", "type"] ["basics.name", "meta.version"]
    let written (rowClass : RowClass) := (rowClass.paths inventories).map (·.render)
    [RowClass.onlyInSchema, .onlyInXsd, .onlyInMeta, .shared, .contextName].map written =
      [["work[].url"], ["meta.version"], ["type"], ["basics.name"], ["title"]] := by
  decide +kernel

end Concord.Drift
