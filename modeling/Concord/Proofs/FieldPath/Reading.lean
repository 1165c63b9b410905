import Concord.FieldPath
import Concord.Proofs.Table
import Concord.Proofs.Traversal

namespace Concord

/-! Reading names, segments and paths, each as the inverse of writing it.

Every reader of this chain succeeds on exactly one text for each value: the text that the value is
written as.  A path is therefore determined by its written form, which makes that form a lawful key.
-/

namespace FieldName

theorem ofString_eq_ok_iff {text : String} {name : FieldName} :
    ofString text = .ok name ↔ name.text = text := by
  unfold ofString
  split
  · rename_i empty
    simp only [reduceCtorEq, false_iff, empty]
    exact name.nonempty
  · split
    · rename_i character found
      simp only [reduceCtorEq, false_iff]
      intro same
      subst same
      have reserved := List.find?_some found
      have free := name.unreserved character (List.mem_of_find?_eq_some found)
      rw [free] at reserved
      exact Bool.false_ne_true reserved
    · obtain ⟨written, nonempty, unreserved⟩ := name
      simp [eq_comm]

theorem ofString_eq_error_iff {text : String} {error : PathError} :
    ofString text = .error error ↔
      text = "" ∧ error = .emptySegment ∨
        ∃ character, text.toList.find? isReserved = some character ∧
          error = .reservedCharacter text character := by
  unfold ofString
  split
  · rename_i empty
    simp [empty, eq_comm]
  · rename_i written
    split
    · rename_i character found
      simp [written, found, eq_comm]
    · rename_i free
      simp [written, free]

theorem ofString?_eq_some_iff {text : String} {name : FieldName} :
    ofString? text = some name ↔ name.text = text := by
  rw [← ofString_eq_ok_iff, ofString?]
  cases ofString text <;> simp [Except.toOption]

theorem text_injective {name other : FieldName} (same : name.text = other.text) : name = other := by
  cases name
  cases other
  congr

instance : LawfulKeyed FieldName := ⟨text_injective⟩

end FieldName

namespace Segment

theorem ofString_eq_ok_iff {text : String} {list : Bool} {segment : Segment} :
    ofString text list = .ok segment ↔ segment.name.text = text ∧ segment.list = list := by
  unfold ofString
  rw [Traversal.bind_eq_ok_iff]
  constructor
  · intro accepted
    obtain ⟨name, found, same⟩ := accepted
    cases same
    exact ⟨FieldName.ofString_eq_ok_iff.mp found, rfl⟩
  · intro written
    obtain ⟨named, rfl⟩ := written
    exact ⟨segment.name, FieldName.ofString_eq_ok_iff.mpr named, rfl⟩

theorem ofString_eq_error_iff {text : String} {list : Bool} {error : PathError} :
    ofString text list = .error error ↔ FieldName.ofString text = .error error :=
  Traversal.return_eq_error_iff

theorem chars_ne_nil (segment : Segment) : segment.chars ≠ [] := by
  have named : segment.name.text.toList ≠ [] := by
    simpa using segment.name.nonempty
  simp [chars, named]

theorem separator_not_mem_chars (segment : Segment) : '.' ∉ segment.chars := by
  intro member
  rcases List.mem_append.mp member with inName | inMarker
  · exact absurd (segment.name.unreserved '.' inName) (by decide)
  · cases list : segment.list <;> simp [list, listMarker] at inMarker

end Segment

namespace FieldPath

theorem pieces_eq_splitOn (text : List Char) : pieces text = text.splitOn '.' := by
  induction text with
  | nil => rfl
  | cons c rest ih =>
      rw [List.splitOn_cons_eq_if_modifyHead, pieces, ih]
      have some := List.splitOn_ne_nil '.' rest
      cases split : rest.splitOn '.' with
      | nil => exact absurd split some
      | cons piece later => simp

theorem beforeMarker?_eq_some_iff {piece name : List Char} :
    beforeMarker? piece = some name ↔ piece = name ++ Segment.listMarker := by
  induction piece generalizing name with
  | nil => simp [beforeMarker?, Segment.listMarker]
  | cons c rest ih =>
      rw [beforeMarker?]
      split
      · rename_i marker
        rw [marker, Option.some.injEq]
        exact ⟨fun empty => by simp [← empty],
          fun same => (List.self_eq_append_left.mp same).symm⟩
      · rename_i noMarker
        rw [Option.map_eq_some_iff]
        constructor
        · intro marked
          obtain ⟨before, found, rfl⟩ := marked
          rw [ih.mp found, List.cons_append]
        · intro same
          cases name with
          | nil => exact absurd same noMarker
          | cons d before =>
              obtain ⟨rfl, tail⟩ := List.cons.inj same
              exact ⟨before, ih.mpr tail, rfl⟩

theorem beforeMarker?_of_unreserved {name : List Char}
    (unreserved : ∀ c ∈ name, isReserved c = false) : beforeMarker? name = none := by
  cases found : beforeMarker? name with
  | none => rfl
  | some before =>
      have bracket : '[' ∈ name := by
        rw [beforeMarker?_eq_some_iff.mp found]
        simp [Segment.listMarker]
      exact absurd (unreserved '[' bracket) (by decide)

/-- A piece is read as the segment that is written so, if there is one. -/
theorem readPiece_eq_ok_iff {whole : String} {piece : List Char} {segment : Segment} :
    readPiece whole piece = .ok segment ↔ segment.chars = piece := by
  constructor
  · intro accepted
    unfold readPiece at accepted
    split at accepted
    · obtain ⟨named, unmarked⟩ := Segment.ofString_eq_ok_iff.mp accepted
      simp [Segment.chars, named, unmarked]
    · cases accepted
    · rename_i before _ found
      split at accepted
      · cases accepted
      · obtain ⟨named, marked⟩ := Segment.ofString_eq_ok_iff.mp accepted
        simp [Segment.chars, named, marked, beforeMarker?_eq_some_iff.mp found]
  · intro written
    subst written
    have named := beforeMarker?_of_unreserved segment.name.unreserved
    obtain ⟨name, list⟩ := segment
    cases list with
    | false =>
        simp only [Segment.chars, Bool.false_eq_true, if_false, List.append_nil, readPiece, named]
        exact Segment.ofString_eq_ok_iff.mpr ⟨by simp, rfl⟩
    | true =>
        have marked : beforeMarker? (Segment.chars ⟨name, true⟩) = some name.text.toList :=
          beforeMarker?_eq_some_iff.mpr rfl
        have nonempty : name.text.toList ≠ [] := by simpa using name.nonempty
        unfold readPiece
        rw [marked]
        cases letters : name.text.toList with
        | nil => exact absurd letters nonempty
        | cons c rest =>
            simp only [← letters, named, Option.isSome_none, Bool.false_eq_true, if_false]
            exact Segment.ofString_eq_ok_iff.mpr ⟨by simp, rfl⟩

theorem chars_eq_nil_iff {path : FieldPath} : path.chars = [] ↔ path = root := by
  obtain ⟨segments⟩ := path
  cases segments with
  | nil => simp [chars, root]
  | cons first rest =>
      have written := first.chars_ne_nil
      cases rest <;> simp [chars, root, written]

/-- A path of more than one segment is not written like a name. -/
theorem separator_mem_render {path : FieldPath} (long : 2 ≤ path.length) :
    '.' ∈ path.render.toList := by
  obtain ⟨segments⟩ := path
  match segments with
  | [] | [_] => simp [length] at long
  | first :: second :: rest => simp [render, chars, List.intercalate]

/-- A text is read as the path that is written so, if there is one. -/
theorem parse_eq_ok_iff {text : String} {path : FieldPath} :
    parse text = .ok path ↔ path.render = text := by
  unfold parse
  split
  · rename_i empty
    subst empty
    rw [Except.ok.injEq, eq_comm, ← chars_eq_nil_iff, render]
    simp
  · rename_i nonempty
    rw [Traversal.bind_eq_ok_iff, pieces_eq_splitOn]
    constructor
    · intro accepted
      obtain ⟨segments, found, same⟩ := accepted
      cases same
      have written : segments.map Segment.chars = text.toList.splitOn '.' := by
        have each := Traversal.mapM_eq_ok_iff.mp found
        simp only [readPiece_eq_ok_iff] at each
        rw [← List.forall₂_eq_eq_eq, List.forall₂_map_left_iff]
        exact each.flip
      rw [render, chars, written, List.intercalate_splitOn, String.ofList_toList]
    · intro written
      subst written
      obtain ⟨segments⟩ := path
      have some : segments.map Segment.chars ≠ [] := by
        intro empty
        rw [List.map_eq_nil_iff] at empty
        subst empty
        exact nonempty rfl
      refine ⟨segments, ?_, rfl⟩
      rw [render, String.toList_ofList, chars, List.splitOn_intercalate '.' _ some,
        Traversal.mapM_eq_ok_iff, List.forall₂_map_left_iff, List.forall₂_same]
      · exact fun segment _ => readPiece_eq_ok_iff.mpr rfl
      · intro piece member
        obtain ⟨segment, _, rfl⟩ := List.mem_map.mp member
        exact segment.separator_not_mem_chars

theorem render_injective {path other : FieldPath} (same : path.render = other.render) :
    path = other := by
  have read := parse_eq_ok_iff.mpr same
  rw [parse_eq_ok_iff.mpr rfl] at read
  exact (Except.ok.inj read).symm

instance : LawfulKeyed FieldPath := ⟨render_injective⟩

end FieldPath

end Concord
