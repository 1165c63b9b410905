import Concord.Proofs.FieldPath.Reading
import Concord.Proofs.Traversal
import Concord.Xsd.Fields

namespace Concord.Xsd

/-! The inventory of an XSD, in terms of its named types, and the types that have no place in it. -/

theorem mem_namedTypes_iff {document : Document} {name : String} {type : ComplexType} :
    (name, type) ∈ document.namedTypes ↔ type ∈ document.complexTypes ∧ type.name? = some name := by
  rw [Document.namedTypes, List.mem_filterMap]
  constructor
  · intro listed
    obtain ⟨declared, member, found⟩ := listed
    obtain ⟨written, named, same⟩ := Option.map_eq_some_iff.mp found
    cases same
    exact ⟨member, named⟩
  · intro declared
    obtain ⟨member, named⟩ := declared
    exact ⟨type, member, by rw [named, Option.map_some]⟩

theorem mem_fields_iff {sections : TypeSections} {document : Document} {path : FieldPath} :
    path ∈ fields sections document ↔
      ∃ (typeName : String) (type : ComplexType) (place : Section) (name : FieldName),
        (typeName, type) ∈ document.namedTypes ∧ sections.place? typeName = some place ∧
        name.text ∈ elementNames type ∧ path = place.toPath.child name := by
  rw [fields, SortedSet.mem_ofList, List.mem_flatMap]
  constructor
  · intro listed
    obtain ⟨⟨typeName, type⟩, member, found⟩ := listed
    cases mapped : sections.place? typeName with
    | none => simp [mapped] at found
    | some place =>
        simp only [mapped] at found
        obtain ⟨written, element, read⟩ := List.mem_filterMap.mp found
        obtain ⟨name, named, rfl⟩ := Option.map_eq_some_iff.mp read
        obtain rfl := FieldName.ofString?_eq_some_iff.mp named
        exact ⟨typeName, type, place, name, member, mapped, element, rfl⟩
  · intro declared
    obtain ⟨typeName, type, place, name, member, mapped, element, rfl⟩ := declared
    refine ⟨(typeName, type), member, ?_⟩
    simp only [mapped]
    apply List.mem_filterMap.mpr
    have read : FieldName.ofString? name.text = some name :=
      FieldName.ofString?_eq_some_iff.mpr rfl
    exact ⟨name.text, element, by rw [read, Option.map_some]⟩

theorem exists_place_of_mem_fields {sections : TypeSections} {document : Document}
    {path : FieldPath} (member : path ∈ fields sections document) :
    ∃ (typeName : String) (place : Section) (name : FieldName),
      sections.place? typeName = some place ∧ path = place.toPath.child name := by
  obtain ⟨typeName, _, place, name, _, placed, _, same⟩ := mem_fields_iff.mp member
  exact ⟨typeName, place, name, placed, same⟩

theorem mappingGaps_eq_nil_iff {sections : TypeSections} {document : Document} :
    mappingGaps sections document = [] ↔
      ∀ entry ∈ document.namedTypes, (sections.place? entry.1).isSome = true := by
  rw [mappingGaps, List.filterMap_eq_nil_iff]
  apply forall₂_congr
  intro entry _
  cases mapped : sections.place? entry.1 <;> simp [mapped]

/-- The written form of a path of one segment is the place below it, but for the unmarked name that
stands for the root. -/
theorem Section.ofString_render {segment : Segment} (notRoot : segment.render ≠ rootName) :
    Section.ofString segment.render = .ok (.below ⟨[segment]⟩) := by
  have whole : FieldPath.render ⟨[segment]⟩ = segment.render := by
    simp [FieldPath.render, FieldPath.chars, Segment.render]
  have read : FieldPath.parse segment.render = .ok ⟨[segment]⟩ :=
    FieldPath.parse_eq_ok_iff.mpr whole
  rw [Section.ofString, if_neg notRoot, read]
  rfl

/-- Whether a type has a name and describes no section. -/
def isUnplaced (sections : TypeSections) (type : ComplexType) : Bool :=
  type.name?.any fun name => (sections.place? name).isNone

/-- A warning accounts for a type by its name and the number of its elements that have one. -/
def AccountsFor (type : ComplexType) (issue : SourceIssue) : Prop :=
  ∃ name, type.name? = some name ∧
    issue = .mappingGap name (type.elements.countP fun declaration => declaration.name?.isSome)

theorem mappingGaps_account_for_unplaced (sections : TypeSections) (document : Document) :
    List.Forall₂ AccountsFor (document.complexTypes.filter (isUnplaced sections))
      (mappingGaps sections document) := by
  rw [mappingGaps, Document.namedTypes, List.filterMap_filterMap]
  apply Traversal.forall₂_filter_filterMap
  · intro type unplaced
    obtain ⟨name, named, absent⟩ := (Option.any_eq_true _ _).mp unplaced
    have unmapped : sections.place? name = none := Option.isNone_iff_eq_none.mp absent
    refine ⟨.mappingGap name (elementNames type).length, ?_, name, named, ?_⟩
    · simp [named, unmapped]
    · rw [elementNames, List.length_filterMap_eq_countP]
  · intro type placed
    cases named : type.name? with
    | none => rfl
    | some name =>
        cases mapped : sections.place? name with
        | none => simp [isUnplaced, named, mapped] at placed
        | some place => simp [mapped]

end Concord.Xsd
