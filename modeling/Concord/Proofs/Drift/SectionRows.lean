import Concord.Proofs.Drift.Checklist
import Concord.Proofs.FieldPath.Ending
import Concord.Proofs.FieldPath.Reading
import Mathlib.Data.List.Dedup

namespace Concord

/-! The rows of a section report, one for each field that a checklist expects.

A checklist has names only, however it was made, so a row can be made for each of its fields.  The
fields stand in order, and their paths differ behind the section alone, so the paths do as well.
-/

theorem NameSet.namesLeaf_child (names : NameSet) (above : FieldPath) (name : FieldName) :
    names.namesLeaf (above.child name) = names.contains name.text := by
  simp [namesLeaf, FieldPath.leaf?, FieldPath.child, FieldPath.append]

theorem FieldPath.endsWith_child_iff {above : FieldPath} {field : FieldName} {name : String} :
    (above.child field).endsWith name = true ↔ field.text = name := by
  simp [endsWith, leaf?, child, append]

namespace Drift.SectionReport

theorem mem_rows_iff {inventories : Inventories} {checklist : Checklist} {row : SectionRow} :
    row ∈ (ofChecklist inventories checklist).rows ↔
      ∃ field ∈ checklist.fields, row = rowOf inventories checklist.sectionPath field := by
  simp only [ofChecklist, List.mem_map, SortedSet.mem_toList, eq_comm]

/-- A row is flagged unless the schema, the context and the XSD give the same answer. -/
theorem isMismatch_rowOf_iff {inventories : Inventories} {sectionPath : FieldPath}
    {field : FieldName} :
    (rowOf inventories sectionPath field).isMismatch = true ↔
      ¬ ((sectionPath.child field ∈ inventories.jsonSchema ↔ field.text ∈ inventories.context) ∧
        (field.text ∈ inventories.context ↔ sectionPath.child field ∈ inventories.xsd)) := by
  simp only [← SortedSet.contains_iff_mem, ← Bool.eq_iff_iff, SectionRow.isMismatch, rowOf,
    Presence.isMismatch, Bool.not_eq_true', Bool.and_eq_false_iff, beq_eq_false_iff_ne]
  tauto

end Drift.SectionReport

namespace FieldPath

variable {above : FieldPath}

/-- The fields below a path share what is written before their names; at the top that is nothing. -/
theorem exists_render_child_eq (above : FieldPath) :
    ∃ before : String, ∀ name, (above.child name).render = before ++ name.text := by
  obtain ⟨segments⟩ := above
  cases segments with
  | nil =>
      refine ⟨"", fun name => ?_⟩
      rw [String.empty_append, ← render_field]
      rfl
  | cons first rest =>
      refine ⟨render ⟨first :: rest⟩ ++ ".", fun name => ?_⟩
      rw [render_eq_intercalate, render_eq_intercalate, child, append, List.map_append,
        String.intercalate_append_of_ne_nil (by simp) (by simp), List.map_singleton,
        String.intercalate_singleton, Segment.render_unmarked]

theorem child_lt_child {name other : FieldName} (before : name < other) :
    above.child name < above.child other := by
  obtain ⟨common, written⟩ := exists_render_child_eq above
  change (above.child name).render < (above.child other).render
  rw [written, written, String.lt_iff, String.toList_append, String.toList_append]
  exact List.append_left_lt (String.lt_iff.mp before)

end FieldPath

namespace Drift

variable {checklist : Checklist} {fields : List String} {inventories : Inventories}

namespace Checklist

/-- The fields that a checklist expects, as they were written: given, read or built in. -/
inductive Expects : Checklist → List String → Prop where
  | made {key : String} {fields : List String} {checklist : Checklist}
      (accepted : ofTexts key fields = .ok checklist) : Expects checklist fields
  | decoded {value : Json} {key : String} {fields : List String} {checklist : Checklist}
      (parts : partsOfJson value = .ok (key, fields)) (accepted : ofJson value = .ok checklist) :
      Expects checklist fields
  | builtIn {place : Nat} {key : String} {fields : List String} {checklist : Checklist}
      (entry : standardEntries[place]? = some (key, fields))
      (stands : standard[place]? = some checklist) : Expects checklist fields

/-- Every built-in checklist is one, and none is left out. -/
theorem standard_answers_entries :
    List.Forall₂ (fun entry checklist => ofTexts entry.1 entry.2 = .ok checklist) standardEntries
      standard := by
  have all : standardEntries.filter (fun entry => (ofTexts entry.1 entry.2).toOption.isSome) =
      standardEntries := by
    decide +kernel
  have each : List.Forall₂ (fun entry checklist => ofTexts entry.1 entry.2 = .ok checklist)
      (standardEntries.filter fun entry => (ofTexts entry.1 entry.2).toOption.isSome)
      (standardEntries.filterMap fun entry => (ofTexts entry.1 entry.2).toOption) := by
    refine Traversal.forall₂_filter_filterMap (fun entry kept => ?_) (fun entry dropped => ?_) _
    · cases made : ofTexts entry.1 entry.2 with
      | error fault => simp [made, Except.toOption] at kept
      | ok checklist => exact ⟨checklist, rfl, rfl⟩
    · exact Option.isNone_iff_eq_none.mp (by simpa using dropped)
  rwa [all] at each

theorem Expects.exists_ofTexts (expected : Expects checklist fields) :
    ∃ key, ofTexts key fields = .ok checklist := by
  cases expected with
  | @made key _ _ accepted => exact ⟨key, accepted⟩
  | decoded parts accepted =>
      obtain ⟨key, texts, read, made⟩ := ofJson_eq_ok_iff.mp accepted
      cases parts.symm.trans read
      exact ⟨_, made⟩
  | @builtIn place key _ _ entry stands =>
      obtain ⟨inEntries, entry⟩ := List.getElem?_eq_some_iff.mp entry
      obtain ⟨inStandard, rfl⟩ := List.getElem?_eq_some_iff.mp stands
      have made := (List.forall₂_iff_get.mp standard_answers_entries).2 place inEntries inStandard
      rw [List.get_eq_getElem, entry] at made
      exact ⟨key, made⟩

theorem Expects.mem_fields_iff (expected : Expects checklist fields) {name : FieldName} :
    name ∈ checklist.fields ↔ name.text ∈ fields := by
  obtain ⟨key, made⟩ := expected.exists_ofTexts
  exact (ofTexts_eq_ok_iff.mp made).2.2 name

theorem Expects.isName (expected : Expects checklist fields) {text : String}
    (member : text ∈ fields) : FieldPath.IsName text := by
  obtain ⟨key, made⟩ := expected.exists_ofTexts
  exact (ofTexts_eq_ok_iff.mp made).2.1 text member

end Checklist

namespace SectionReport

/-- The row for a text that is expected in a section; a text that is no name has none. -/
def rowOfText? (inventories : Inventories) (above : FieldPath) (text : String) :
    Option SectionRow :=
  (FieldName.ofString? text).map (rowOf inventories above)

theorem rowOfText?_text (above : FieldPath) (field : FieldName) :
    rowOfText? inventories above field.text = some (rowOf inventories above field) := by
  have read : FieldName.ofString? field.text = some field :=
    FieldName.ofString?_eq_some_iff.mpr rfl
  rw [rowOfText?, read, Option.map_some]

theorem fields_rows (inventories : Inventories) (checklist : Checklist) :
    (ofChecklist inventories checklist).rows.map (·.field) = checklist.fields.toList := by
  rw [ofChecklist, List.map_map]
  exact List.map_id _

theorem rows_ascending (inventories : Inventories) (checklist : Checklist) :
    (ofChecklist inventories checklist).rows.Pairwise fun earlier later =>
      earlier.field < later.field := by
  rw [← List.pairwise_map (f := SectionRow.field), fields_rows]
  exact checklist.fields.toList_ascending

theorem paths_ascending (inventories : Inventories) (checklist : Checklist) :
    (ofChecklist inventories checklist).rows.Pairwise fun earlier later =>
      earlier.path < later.path := by
  refine (rows_ascending inventories checklist).imp_of_mem fun member otherMember before => ?_
  obtain ⟨field, _, rfl⟩ := mem_rows_iff.mp member
  obtain ⟨other, _, rfl⟩ := mem_rows_iff.mp otherMember
  exact FieldPath.child_lt_child before

theorem texts_rows_perm (expected : checklist.Expects fields) (inventories : Inventories) :
    ((ofChecklist inventories checklist).rows.map fun row => row.field.text).Perm
      fields.dedup := by
  have texts : ((ofChecklist inventories checklist).rows.map fun row => row.field.text) =
      checklist.fields.toList.map (·.text) := by
    rw [← fields_rows inventories, List.map_map]
    rfl
  have distinct : (checklist.fields.toList.map (·.text)).Nodup :=
    List.pairwise_map.mpr (checklist.fields.toList_ascending.imp String.ne_of_lt)
  rw [texts, List.perm_ext_iff_of_nodup distinct (List.nodup_dedup fields)]
  intro text
  rw [List.mem_dedup, List.mem_map]
  constructor
  · intro listed
    obtain ⟨name, member, rfl⟩ := listed
    exact expected.mem_fields_iff.mp member
  · intro given
    obtain ⟨name, rfl⟩ := FieldPath.isName_iff_exists.mp (expected.isName given)
    exact ⟨name, expected.mem_fields_iff.mpr given, rfl⟩

/-- A report has one row for each distinct field of a checklist, and no field is passed over.  The
rows stand in the order of their fields and of their paths; a path is the section with the field
behind it and is read back as it is; and a row is flagged unless the schema, the context and the XSD
agree. -/
theorem section_report_has_row_for_each_field (expected : checklist.Expects fields)
    (inventories : Inventories) :
    let rows := (ofChecklist inventories checklist).rows
    (checklist.fields.toList.map fun field =>
        rowOfText? inventories checklist.sectionPath field.text) = rows.map some ∧
    (rows.map fun row => row.field.text).Perm fields.dedup ∧
    rows.Pairwise (fun earlier later => earlier.field < later.field) ∧
    rows.Pairwise (fun earlier later => earlier.path < later.path) ∧
    ∀ row ∈ rows,
      row.path.segments = checklist.sectionPath.segments ++ [{ name := row.field, list := false }] ∧
      FieldPath.parse row.path.render = .ok row.path ∧
      (row.isMismatch = true ↔
        ¬ (row.presence.jsonSchema = row.presence.jsonLdContext ∧
          row.presence.jsonLdContext = row.presence.xsd)) := by
  intro rows
  refine ⟨?_, texts_rows_perm expected inventories, rows_ascending inventories checklist,
    paths_ascending inventories checklist, fun row member => ?_⟩
  · simp only [rowOfText?_text]
    exact (List.map_map ..).symm
  · obtain ⟨field, _, rfl⟩ := mem_rows_iff.mp member
    refine ⟨rfl, FieldPath.parse_eq_ok_iff.mpr rfl, ?_⟩
    rw [SectionRow.isMismatch, Presence.isMismatch, Bool.not_eq_true', Bool.and_eq_false_iff,
      beq_eq_false_iff_ne, beq_eq_false_iff_ne, not_and_or]

def dateField : FieldName := ⟨"date", by decide, by simp [isReserved]⟩

def awarderField : FieldName := ⟨"awarder", by decide, by simp [isReserved]⟩

/-- A section that is a list, of which one field is expected twice. -/
def listChecklist : Checklist where
  sectionPath := ⟨[⟨⟨"awards", by decide, by simp [isReserved]⟩, true⟩]⟩
  fields := .ofList [dateField, awarderField, dateField]

theorem repeated_field_has_one_row :
    listChecklist.Expects ["date", "awarder", "date"] ∧
    let rows := (ofChecklist ⟨∅, .ofList ["date"], ∅, ∅⟩ listChecklist).rows
    (rows.map fun row => row.field.text).Perm ["awarder", "date"] ∧
    rows.Pairwise (fun earlier later => earlier.path < later.path) ∧
    ∀ row ∈ rows, row.path.segments =
      listChecklist.sectionPath.segments ++ [{ name := row.field, list := false }] := by
  have listed : ["date", "awarder", "date"] =
      [dateField, awarderField, dateField].map (·.text) := rfl
  have accepted : Checklist.ofTexts "awards[]" ["date", "awarder", "date"] = .ok listChecklist := by
    rw [listed]
    refine Checklist.ofTexts_eq_ok_iff.mpr
      ⟨by decide +kernel, fun text member => ?_, fun name => ?_⟩
    · obtain ⟨name, _, rfl⟩ := List.mem_map.mp member
      exact FieldPath.isName_iff_exists.mpr ⟨name, rfl⟩
    · rw [FieldName.text_mem_map_iff]
      exact SortedSet.mem_ofList
  have expected : listChecklist.Expects ["date", "awarder", "date"] := .made accepted
  obtain ⟨_, each, _, ordered, shaped⟩ :=
    section_report_has_row_for_each_field expected ⟨∅, .ofList ["date"], ∅, ∅⟩
  exact ⟨expected, each, ordered, fun row member => (shaped row member).1⟩

end SectionReport

end Drift

end Concord
