import Concord.Proofs.FieldPath.Reading
import Concord.Xsd.Fields

namespace Concord.Xsd

/-! The sections that types can describe.

A table of sections is read from written entries, by itself or on top of the standard one.  Every
section in it was read from a text, so that only the root adds nothing before a field.
-/

namespace Section

theorem ofString_eq_ok_iff {text : String} {place : Section} :
    ofString text = .ok place ↔
      text = rootName ∧ place = .root ∨
        text ≠ rootName ∧ ∃ path, path ≠ FieldPath.root ∧ path.render = text ∧
          place = .below path := by
  unfold ofString
  split
  · rename_i sentinel
    simp [sentinel, eq_comm]
  · rename_i written
    rw [or_iff_right fun named => written named.1, and_iff_right written,
      Traversal.bind_eq_ok_iff]
    simp only [FieldPath.parse_eq_ok_iff]
    constructor
    · intro read
      obtain ⟨path, rendered, kept⟩ := read
      split at kept
      · cases kept
      · rename_i some
        cases kept
        refine ⟨path, ?_, rendered, rfl⟩
        rintro rfl
        exact some rfl
    · intro below
      obtain ⟨path, notRoot, rendered, rfl⟩ := below
      refine ⟨path, rendered, if_neg ?_⟩
      intro empty
      obtain ⟨segments⟩ := path
      exact notRoot (congrArg FieldPath.mk (List.isEmpty_iff.mp empty))

theorem toPath_ne_root_of_ofString {text : String} {place : Section}
    (read : ofString text = .ok place) (below : place ≠ .root) : place.toPath ≠ .root := by
  rcases ofString_eq_ok_iff.mp read with ⟨_, rfl⟩ | ⟨_, path, notRoot, _, rfl⟩
  · exact absurd rfl below
  · exact notRoot

end Section

namespace TypeSections

/-- The tables that can be made: from entries, the standard one, or entries on top of it. -/
inductive Built : TypeSections → Prop where
  | entries {written : List (String × String)} {sections : TypeSections}
      (read : ofEntries written = .ok sections) : Built sections
  | standard : Built standard
  | layered {written : List (String × String)} {sections : TypeSections}
      (read : standardWith written = .ok sections) : Built sections

theorem exists_text_of_ofEntries {written : List (String × String)} {sections : TypeSections}
    (read : ofEntries written = .ok sections) {type : String} {place : Section}
    (placed : sections.place? type = some place) :
    ∃ entry ∈ written, entry.1 = type ∧ Section.ofString entry.2 = .ok place := by
  obtain ⟨entries, each, same⟩ := Traversal.bind_eq_ok_iff.mp read
  cases same
  rcases Table.exists_of_get?_insertAll placed with ⟨entry, member, named, rfl⟩ | absent
  · obtain ⟨source, stands, found⟩ :=
      Traversal.exists_of_forall₂ (Traversal.mapM_eq_ok_iff.mp each) member
    obtain ⟨place, parsed, same⟩ := Traversal.bind_eq_ok_iff.mp found
    cases same
    exact ⟨source, stands, named, parsed⟩
  · cases absent

theorem exists_text_of_standard {type : String} {place : Section}
    (placed : standard.place? type = some place) :
    ∃ text, Section.ofString text = .ok place := by
  rcases Table.exists_of_get?_insertAll placed with ⟨entry, member, _, rfl⟩ | absent
  · obtain ⟨source, _, found⟩ := List.mem_filterMap.mp member
    obtain ⟨place, read, same⟩ := Option.map_eq_some_iff.mp found
    cases same
    cases parsed : Section.ofString source.2 with
    | error fault => simp [parsed, Except.toOption] at read
    | ok other =>
        cases read.symm.trans (congrArg Except.toOption parsed)
        exact ⟨source.2, parsed⟩
  · cases absent

/-- Every section of such a table was read from a text. -/
theorem Built.exists_text {sections : TypeSections} (built : sections.Built) {type : String}
    {place : Section} (placed : sections.place? type = some place) :
    ∃ text, Section.ofString text = .ok place := by
  cases built with
  | entries read =>
      obtain ⟨entry, _, _, parsed⟩ := exists_text_of_ofEntries read placed
      exact ⟨entry.2, parsed⟩
  | standard => exact exists_text_of_standard placed
  | layered read =>
      obtain ⟨extra, readExtra, same⟩ := Traversal.bind_eq_ok_iff.mp read
      cases same
      rcases Table.exists_of_get?_insertAll placed with ⟨entry, member, named, rfl⟩ | standing
      · have stored : extra.place? entry.1 = some entry.2 := Table.get?_eq_some_iff.mpr member
        obtain ⟨source, _, _, parsed⟩ := exists_text_of_ofEntries readExtra stored
        exact ⟨source.2, parsed⟩
      · exact exists_text_of_standard standing

/-- Only the root adds nothing before a field. -/
theorem Built.length_toPath_pos {sections : TypeSections} (built : sections.Built) {type : String}
    {place : Section} (placed : sections.place? type = some place) (below : place ≠ .root) :
    0 < place.toPath.length := by
  obtain ⟨text, read⟩ := built.exists_text placed
  apply List.length_pos_iff.mpr
  intro empty
  exact Section.toPath_ne_root_of_ofString read below (congrArg FieldPath.mk empty)

end TypeSections

end Concord.Xsd
