import Concord.Proofs.Schema.Chain

namespace Concord.Schema

/-! The depth limit of the inventory of a JSON Schema.

Which names lead down from a section does not depend on the limit; the limit only bounds how many of
them there are.  So a smaller limit cuts off the longer paths and changes nothing else, and a path is
listed with all the fields that it goes through.
-/

theorem Leads.length_pos {fields : List (String × Shape)} {names : List FieldName}
    (leads : Leads fields names) : 1 ≤ names.length := by
  cases leads <;> simp

/-- Names that lead down lead through every field above the last. -/
theorem Leads.dropLast {fields : List (String × Shape)} {names : List FieldName}
    (leads : Leads fields names) (long : 2 ≤ names.length) : Leads fields names.dropLast := by
  induction leads with
  | last declared => simp at long
  | @cons fields nested name names declared below ih =>
      cases below with
      | last _ => exact .last declared
      | @cons _ _ second names _ deeper =>
          have rest := ih (Nat.succ_le_succ deeper.length_pos)
          rw [List.dropLast_cons_cons]
          exact .cons declared rest

/-- Names that lead down from a section of a schema. -/
inductive LeadsFrom (schema : Shape) : Segment → List FieldName → Prop where
  | below {sections nested : List (String × Shape)} {shape : Shape} {name : FieldName}
      {list : Bool} {names : List FieldName} (listed : schema.fields? = some sections)
      (member : (name.text, shape) ∈ sections) (plain : name.text ∉ metadataKeys)
      (place : sectionFields? shape = some (nested, list)) (leads : Leads nested names) :
      LeadsFrom schema { name, list } names

/-- The depth has no part in which names lead down, only in how many there may be. -/
theorem mem_fields_iff_leads {depth : Nat} {schema : Shape} {path : FieldPath} :
    path ∈ fields depth schema ↔
      ∃ place names, LeadsFrom schema place names ∧ names.length ≤ depth ∧
        path = chainPath place names := by
  rw [mem_fields_iff]
  simp only [mem_fieldsBelow_iff_leads]
  constructor
  · intro walked
    obtain ⟨_, name, _, _, list, listed, member, plain, place, names, leads, short, here⟩ := walked
    exact ⟨{ name, list }, names, .below listed member plain place leads, short, here⟩
  · intro reached
    obtain ⟨_, names, ⟨listed, member, plain, place, leads⟩, short, here⟩ := reached
    exact ⟨_, _, _, _, _, listed, member, plain, place, names, leads, short, here⟩

variable {schema : Shape} {place : Segment} {names : List FieldName}

theorem LeadsFrom.length_pos (leads : LeadsFrom schema place names) : 1 ≤ names.length := by
  cases leads with
  | below _ _ _ _ leads => exact leads.length_pos

theorem LeadsFrom.dropLast (leads : LeadsFrom schema place names) (long : 2 ≤ names.length) :
    LeadsFrom schema place names.dropLast := by
  cases leads with
  | below listed member plain place leads =>
      exact .below listed member plain place (leads.dropLast long)

theorem length_chainPath (place : Segment) (names : List FieldName) :
    (chainPath place names).length = names.length + 1 := by
  simp [chainPath, FieldPath.length]

theorem dropLast_chainPath (place : Segment) {names : List FieldName} (some : 1 ≤ names.length) :
    (⟨(chainPath place names).segments.dropLast⟩ : FieldPath) = chainPath place names.dropLast := by
  have nonempty : names ≠ [] := List.length_pos_iff.mp some
  simp [chainPath, List.dropLast_cons_of_ne_nil, nonempty, List.map_dropLast]

theorem mem_fields_iff_of_le {depth deeper : Nat} (within : depth ≤ deeper) {path : FieldPath} :
    path ∈ fields depth schema ↔ path ∈ fields deeper schema ∧ path.length ≤ depth + 1 := by
  simp only [mem_fields_iff_leads]
  constructor
  · intro reached
    obtain ⟨place, names, leads, short, rfl⟩ := reached
    refine ⟨⟨place, names, leads, by omega, rfl⟩, ?_⟩
    rw [length_chainPath]
    omega
  · intro reached
    obtain ⟨⟨place, names, leads, _, rfl⟩, short⟩ := reached
    rw [length_chainPath] at short
    exact ⟨place, names, leads, by omega, rfl⟩

/-- A smaller depth lists, in the same order, the paths that are no longer than it allows: nothing at
depth zero, and never a path that a greater depth leaves out.  At every depth a path below a field is
listed together with the field. -/
theorem depth_truncates_fields (schema : Shape) :
    (∀ depth deeper, depth ≤ deeper →
      (fields depth schema).toList =
        (fields deeper schema).toList.filter fun path => path.length ≤ depth + 1) ∧
    fields 0 schema = ∅ ∧
    (∀ depth deeper, depth ≤ deeper →
      ∀ path ∈ fields depth schema, path ∈ fields deeper schema) ∧
    ∀ depth, ∀ path ∈ fields depth schema, 2 < path.length →
      ⟨path.segments.dropLast⟩ ∈ fields depth schema := by
  refine ⟨fun depth deeper within => ?_, ?_, fun depth deeper within path member => ?_,
    fun depth path member long => ?_⟩
  · apply eq_of_ascending (SortedSet.toList_ascending _) ((SortedSet.toList_ascending _).filter _)
    intro path
    rw [List.mem_filter, decide_eq_true_eq]
    exact mem_fields_iff_of_le within
  · apply SortedSet.ext
    intro path
    refine iff_of_false (fun listed => ?_) (SortedSet.not_mem_empty path)
    obtain ⟨place, names, leads, short, _⟩ := mem_fields_iff_leads.mp listed
    have some := leads.length_pos
    omega
  · exact ((mem_fields_iff_of_le within).mp member).1
  · obtain ⟨place, names, leads, short, rfl⟩ := mem_fields_iff_leads.mp member
    rw [length_chainPath] at long
    rw [dropLast_chainPath place leads.length_pos]
    refine mem_fields_iff_leads.mpr ⟨place, names.dropLast, leads.dropLast (by omega), ?_, rfl⟩
    rw [List.length_dropLast]
    omega

end Concord.Schema
