import Concord.Comparison
import Concord.Proofs.Drift.Agreement
import Concord.Proofs.Schema.Chain
import Concord.Proofs.Xsd.Fields
import Concord.Proofs.Xsd.Sections

namespace Concord.Comparison

/-! The paths of the three inventories, told apart by their shape.

A JSON Schema has fields below sections, a meta-schema has bare keywords, and an XSD has what its
table of types puts its elements below.  The main statement draws from this which flags can stand
together in a row, and when the lists of a summary are all the drift of a run.
-/

variable {options : Options} {baseDir : String} {sources : Sources} {path : FieldPath}

theorem exists_of_mem_declared {α : Type u} {β : Type v} [Keyed β]
    {document : Except SourceIssue α} {extract : α → SortedSet β} {b : β}
    (member : b ∈ declared document extract) : ∃ loaded, b ∈ extract loaded := by
  cases document with
  | ok loaded => exact ⟨loaded, member⟩
  | error issue => exact absurd member (SortedSet.not_mem_empty b)

theorem two_le_length_of_mem_jsonSchema
    (member : path ∈ (ofSources options baseDir sources).inventories.jsonSchema) :
    2 ≤ path.length := by
  obtain ⟨schema, listed⟩ := exists_of_mem_declared member
  exact (Schema.shape_of_mem_fields listed).1

theorem exists_name_of_mem_metaSchema
    (member : path ∈ (ofSources options baseDir sources).inventories.metaSchema) :
    ∃ name, path = .field name := by
  obtain ⟨schema, listed⟩ := exists_of_mem_declared member
  exact Schema.exists_name_of_mem_keywords listed

theorem exists_place_of_mem_xsd
    (member : path ∈ (ofSources options baseDir sources).inventories.xsd) :
    ∃ (typeName : String) (place : Xsd.Section) (name : FieldName),
      options.sections.place? typeName = some place ∧ path = place.toPath.child name := by
  obtain ⟨document, listed⟩ := exists_of_mem_declared member
  exact Xsd.exists_place_of_mem_fields listed

theorem length_child (above : FieldPath) (name : FieldName) :
    (above.child name).length = above.length + 1 := by
  simp [FieldPath.length, FieldPath.child, FieldPath.append]

/-- A path of the XSD has more than one segment, unless some type describes the root. -/
theorem two_le_length_or_exists_root (built : options.sections.Built)
    (member : path ∈ (ofSources options baseDir sources).inventories.xsd) :
    2 ≤ path.length ∨ ∃ typeName, options.sections.place? typeName = some .root := by
  obtain ⟨typeName, place, name, placed, rfl⟩ := exists_place_of_mem_xsd member
  by_cases root : place = .root
  · exact .inr ⟨typeName, root ▸ placed⟩
  · have prefixed : 0 < place.toPath.length := built.length_toPath_pos placed root
    rw [length_child]
    exact .inl (by omega)

/-- Names without a separator are never written like a path of more than one segment. -/
theorem render_not_mem_of_long {names : NameSet} (plain : ∀ name ∈ names, '.' ∉ name.toList)
    (long : 2 ≤ path.length) : path.render ∉ names :=
  fun member => plain _ member (FieldPath.separator_mem_render long)

/-- A path of a schema has a section, which may be marked, and below it unmarked names; a keyword of
a meta-schema is one unmarked name; a path of an XSD is one unmarked name below a place of the table
of types.  So no row of a comparison has the flags of both the schema and the meta-schema, and only
one for a type at the root has those of both the meta-schema and the XSD.  Without such a type, and
with no separator in a name of the context, the lists of the summary are the differences of the
inventories and cover the drift of the matrix. -/
theorem separated_shapes_cover_drift (built : options.sections.Built) :
    (∀ depth schema, ∀ path ∈ Schema.fields depth (.ofJson schema),
      2 ≤ path.length ∧ ∀ segment ∈ path.segments.tail, segment.list = false) ∧
    (∀ schema, ∀ path ∈ Schema.keywords (.ofJson schema),
      ∃ name, path.segments = [{ name, list := false }]) ∧
    (∀ document, ∀ path ∈ Xsd.fields options.sections document, ∃ typeName place name,
      options.sections.place? typeName = some place ∧
      path.segments = place.toPath.segments ++ [{ name, list := false }]) ∧
    ∀ (baseDir : String) (sources : Sources),
      let comparison := ofSources options baseDir sources
      let inventories := comparison.inventories
      let summary := comparison.summary
      (∀ row ∈ comparison.matrix.rows.entries,
        ¬ (row.2.jsonSchema = true ∧ row.2.metaSchema = true)) ∧
      (∀ row ∈ comparison.matrix.rows.entries, row.2.metaSchema = true ∧ row.2.xsd = true →
        ∃ typeName, options.sections.place? typeName = some .root) ∧
      ((∀ typeName, options.sections.place? typeName ≠ some .root) →
        (∀ name ∈ inventories.context, '.' ∉ name.toList) →
        summary.onlyInSchema =
          inventories.jsonSchema.toList.filter (fun path => !inventories.xsd.contains path) ∧
        summary.onlyInXsd =
          inventories.xsd.toList.filter (fun path => !inventories.jsonSchema.contains path) ∧
        ∀ path, path ∈ comparison.matrix.mismatchPaths ↔
          path ∈ summary.onlyInSchema ∨ path ∈ summary.onlyInXsd ∨
            path ∈ summary.missingFromContext) := by
  refine ⟨fun depth schema path => Schema.shape_of_mem_fields, fun schema path member => ?_,
    fun document path member => ?_, fun baseDir sources => ?_⟩
  · obtain ⟨name, rfl⟩ := Schema.exists_name_of_mem_keywords member
    exact ⟨name, rfl⟩
  · obtain ⟨typeName, place, name, placed, rfl⟩ := Xsd.exists_place_of_mem_fields member
    exact ⟨typeName, place, name, placed, rfl⟩
  · intro comparison inventories summary
    have flags {row : FieldPath × Drift.Presence} (member : row ∈ comparison.matrix.rows.entries) :
        row.2 = Drift.declaredPresence inventories row.1 :=
      (Drift.PresenceMatrix.mem_rows_iff.mp member).2
    refine ⟨fun row member both => ?_, fun row member both => ?_, fun noRoot plain => ?_⟩
    · rw [flags member] at both
      have long := two_le_length_of_mem_jsonSchema (SortedSet.contains_iff_mem.mp both.1)
      obtain ⟨name, bare⟩ :=
        exists_name_of_mem_metaSchema (SortedSet.contains_iff_mem.mp both.2)
      rw [bare] at long
      exact Nat.not_succ_le_self 1 long
    · rw [flags member] at both
      obtain ⟨name, bare⟩ :=
        exists_name_of_mem_metaSchema (SortedSet.contains_iff_mem.mp both.1)
      refine (two_le_length_or_exists_root built
        (SortedSet.contains_iff_mem.mp both.2)).resolve_left fun long => ?_
      rw [bare] at long
      exact Nat.not_succ_le_self 1 long
    · have schemaApart : ∀ path ∈ inventories.jsonSchema, path.render ∉ inventories.context :=
        fun path member => render_not_mem_of_long plain (two_le_length_of_mem_jsonSchema member)
      have xsdApart : ∀ path ∈ inventories.xsd, path.render ∉ inventories.context :=
        fun path member => render_not_mem_of_long plain
          ((two_le_length_or_exists_root built member).resolve_right (not_exists.mpr noRoot))
      exact ⟨Drift.Summary.onlyInSchema_eq_filter schemaApart,
        Drift.Summary.onlyInXsd_eq_filter xsdApart,
        fun path => Drift.PresenceMatrix.mem_mismatchPaths_iff_listed schemaApart xsdApart⟩

/-- The schema has a field that the XSD lacks and the other way round; the context has one of the
three names. -/
def workSources : Sources where
  jsonSchema := .ok (.object [("properties", .object [("work", .object [("items",
    .object [("properties", .object [("position", .null), ("url", .null)])])])])])
  context := .ok (.object [("@context", .object [("position", .null)])])
  metaSchema := .ok (.object [("properties", .object [("type", .null), ("url", .null)])])
  xsd := .ok {
    root := ⟨some Xsd.namespaceUri, "schema"⟩
    targetNamespace? := none
    complexTypes := [⟨some "WorkType", [⟨some "position", none⟩, ⟨some "name", none⟩]⟩]
    simpleTypeCount := 0
    topLevelElements := []
    elements := [⟨some "position", none⟩, ⟨some "name", none⟩] }

theorem work_lists_cover_drift :
    let comparison := ofSources .standard "v1" workSources
    let summary := comparison.summary
    (Options.standard.sections.Built ∧
      (∀ typeName, Options.standard.sections.place? typeName ≠ some .root) ∧
      ∀ name ∈ comparison.inventories.context, '.' ∉ name.toList) ∧
    comparison.matrix.mismatchPaths.map (·.render) = ["work[].name", "work[].url"] ∧
    ∀ path, path ∈ comparison.matrix.mismatchPaths ↔
      path ∈ summary.onlyInSchema ∨ path ∈ summary.onlyInXsd ∨
        path ∈ summary.missingFromContext := by
  intro comparison summary
  have noRoot : ∀ typeName, Options.standard.sections.place? typeName ≠ some .root := by
    intro typeName placed
    have each : ∀ entry ∈ Xsd.TypeSections.standard.table.entries, entry.2 ≠ .root := by
      decide +kernel
    exact each _ (Table.get?_eq_some_iff.mp placed) rfl
  have plain : ∀ name ∈ comparison.inventories.context, '.' ∉ name.toList := by
    change ∀ name ∈ comparison.inventories.context.toList, '.' ∉ name.toList
    decide +kernel
  obtain ⟨_, _, _, rows⟩ :=
    @separated_shapes_cover_drift .standard Xsd.TypeSections.Built.standard
  obtain ⟨_, _, covered⟩ := rows "v1" workSources
  exact ⟨⟨.standard, noRoot, plain⟩, by decide +kernel, (covered noRoot plain).2.2⟩

end Concord.Comparison
