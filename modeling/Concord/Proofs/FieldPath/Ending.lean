import Concord.Proofs.FieldPath.Fault
import Concord.Proofs.Inventories

namespace Concord

/-! How a written path ends.

A path is reconciled with bare names by its last segment.  The main statement says what this is for
the written path: it ends in the name, marked or not, and what stands before that is a dot or nothing.
A name that is only the end of the last name of a path is therefore none that the path ends with.
-/

/-- A text ends in a piece: nothing stands before the piece, or a dot does. -/
inductive EndsInPiece (piece : String) : String → Prop where
  | alone : EndsInPiece piece piece
  | after (before : String) : EndsInPiece piece (before ++ "." ++ piece)

/-- A piece without dots that a text ends in is the last one between its dots. -/
theorem EndsInPiece.getLast?_pieces {piece text : String} (ends : EndsInPiece piece text)
    (separated : '.' ∉ piece.toList) :
    (FieldPath.pieces text.toList).getLast? = some piece.toList := by
  have last : piece.toList.splitOn '.' = [piece.toList] := List.splitOn_eq_singleton separated
  rw [FieldPath.pieces_eq_splitOn]
  cases ends with
  | alone => rw [last, List.getLast?_singleton]
  | after before =>
      have letters : (before ++ "." ++ piece).toList = before.toList ++ '.' :: piece.toList := by
        simp
      rw [letters, List.splitOn_append_cons_self, last, List.getLast?_concat]

namespace Segment

theorem toList_render (segment : Segment) : segment.render.toList = segment.chars :=
  String.toList_ofList

theorem render_unmarked (name : FieldName) : (Segment.mk name false).render = name.text := by
  simp [render, chars]

theorem render_marked (name : FieldName) : (Segment.mk name true).render = name.text ++ "[]" := by
  simp [render, chars, listMarker]

/-- A segment is read back from its letters, so they are those of no other. -/
theorem chars_injective : Function.Injective chars := by
  intro segment other same
  have read : FieldPath.readPiece "" other.chars = .ok segment :=
    FieldPath.readPiece_eq_ok_iff.mpr same
  rw [FieldPath.readPiece_eq_ok_iff.mpr rfl] at read
  exact (Except.ok.inj read).symm

end Segment

namespace FieldPath

variable {path : FieldPath} {segment : Segment}

theorem pieces_render (some : path.segments ≠ []) :
    pieces path.render.toList = path.segments.map Segment.chars := by
  rw [render_eq_intercalate, pieces_intercalate (by simpa using some), List.map_map]
  · exact List.map_congr_left fun segment _ => segment.toList_render
  · intro part member
    obtain ⟨segment, _, rfl⟩ := List.mem_map.mp member
    rw [segment.toList_render]
    exact segment.separator_not_mem_chars

theorem endsInPiece_last (above : List Segment) (last : Segment) :
    EndsInPiece last.render (render ⟨above ++ [last]⟩) := by
  rw [render_eq_intercalate, List.map_append, List.map_singleton]
  cases above with
  | nil => exact String.intercalate_singleton ▸ .alone
  | cons first rest =>
      rw [String.intercalate_append_of_ne_nil (by simp) (by simp), String.intercalate_singleton]
      exact .after _

/-- A written path ends in its last segment and in no other. -/
theorem endsInPiece_render_iff :
    EndsInPiece segment.render path.render ↔ path.segments.getLast? = some segment := by
  constructor
  · intro ends
    have last := ends.getLast?_pieces (by
      rw [segment.toList_render]
      exact segment.separator_not_mem_chars)
    rw [segment.toList_render] at last
    by_cases empty : path.segments = []
    · obtain rfl : path = root := eq_iff_segments_eq.mpr empty
      exact absurd (Option.some.inj last).symm segment.chars_ne_nil
    · rw [pieces_render empty, List.getLast?_map, Option.map_eq_some_iff] at last
      obtain ⟨other, found, same⟩ := last
      rw [found, Segment.chars_injective same]
  · intro found
    obtain ⟨segments⟩ := path
    obtain ⟨above, rfl⟩ := List.getLast?_eq_some_iff.mp found
    exact endsInPiece_last above segment

theorem endsWith_text_iff {name : FieldName} :
    path.endsWith name.text = true ↔ ∃ list, path.segments.getLast? = some ⟨name, list⟩ := by
  rw [endsWith_iff, leaf?]
  constructor
  · intro ends
    obtain ⟨leaf, found, same⟩ := ends
    obtain ⟨⟨last, list⟩, listed, rfl⟩ := Option.map_eq_some_iff.mp found
    obtain rfl := FieldName.text_injective same
    exact ⟨list, listed⟩
  · intro ends
    obtain ⟨list, listed⟩ := ends
    exact ⟨name, by rw [listed]; rfl, rfl⟩

end FieldPath

theorem NameSet.namesLeaf_iff_exists_endsWith {names : NameSet} {path : FieldPath} :
    names.namesLeaf path = true ↔ ∃ name ∈ names, path.endsWith name = true := by
  simp only [namesLeaf_iff, FieldPath.endsWith_iff]
  constructor
  · intro named
    obtain ⟨leaf, last, member⟩ := named
    exact ⟨leaf.text, member, leaf, last, rfl⟩
  · intro named
    obtain ⟨_, member, leaf, last, rfl⟩ := named
    exact ⟨leaf, last, member⟩

namespace FieldPath

/-- A path ends with a name if and only if its written form ends in the name, or in the name and a
list marker, with a dot or nothing before it.  It ends with no text that is not a name, and a set of
names knows the last name of a path if and only if the path ends with one of them. -/
theorem endsWith_iff_written_ending (path : FieldPath) :
    (∀ name : FieldName, path.endsWith name.text = true ↔
      EndsInPiece name.text path.render ∨ EndsInPiece (name.text ++ "[]") path.render) ∧
    (∀ text : String,
      text = "" ∨ '.' ∈ text.toList ∨ '[' ∈ text.toList ∨ ']' ∈ text.toList →
        path.endsWith text = false) ∧
    ∀ names : NameSet,
      names.namesLeaf path = true ↔ ∃ name ∈ names, path.endsWith name = true := by
  refine ⟨fun name => ?_, fun text reserved => ?_, fun names =>
    NameSet.namesLeaf_iff_exists_endsWith⟩
  · rw [endsWith_text_iff, Bool.exists_bool, ← endsInPiece_render_iff, ← endsInPiece_render_iff,
      Segment.render_unmarked, Segment.render_marked]
  · apply endsWith_eq_false_of_not_isName
    intro named
    obtain ⟨nonempty, plain⟩ := named
    rcases reserved with empty | dot | opening | closing
    · exact nonempty empty
    · exact (plain _ dot).1 rfl
    · exact (plain _ opening).2.1 rfl
    · exact (plain _ closing).2.2 rfl

example : (parse "work[].url").map (fun path => (path.endsWith "url", path.endsWith "rl")) =
    .ok (true, false) := by decide +kernel

end FieldPath

end Concord
