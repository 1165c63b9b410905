import Concord.Proofs.FieldPath.Grammar

namespace Concord.FieldPath

/-! What is said of a text that is no written path.

The text is taken apart at its dots, and the leftmost piece that is none of the grammar decides.  The
main statement says which piece that is and what is reported of it, for every way in which a piece
can fail to be a name with at most one list marker.
-/

variable {text whole piece : String} {error : PathError}

/-- The leftmost piece between the dots of a text that is none of the grammar. -/
inductive IsLeftmostFault : String → String → Prop where
  | stands {before after : List String} {piece : String}
      (separated : ∀ part ∈ before ++ piece :: after, '.' ∉ part.toList)
      (sound : ∀ earlier ∈ before, IsPiece earlier) (faulty : ¬ IsPiece piece) :
      IsLeftmostFault (".".intercalate (before ++ piece :: after)) piece

/-- A piece and what stands before the list marker that it ends in, or else all of it. -/
inductive IsUnmarked : String → String → Prop where
  | marked (name : String) : IsUnmarked (name ++ "[]") name
  | plain {piece : String} (unmarked : ∀ name, piece ≠ name ++ "[]") : IsUnmarked piece piece

/-- What is reported of a piece of a text. -/
inductive Reports (whole : String) : String → PathError → Prop where
  | empty : Reports whole "" .emptySegment
  | dangling : Reports whole "[]" (.danglingMarker whole)
  | repeated (name : String) : Reports whole (name ++ "[][]") (.repeatedMarker whole)
  | reserved {piece name : String} {character : Char} (written : piece ≠ "")
      (named : piece ≠ "[]") (single : ∀ name, piece ≠ name ++ "[][]")
      (unmarked : IsUnmarked piece name)
      (first : name.toList.find? (fun c => c = '[' || c = ']') = some character) :
      Reports whole piece (.reservedCharacter name character)

theorem separator_not_mem_pieces {letters piece : List Char} (member : piece ∈ pieces letters) :
    '.' ∉ piece := by
  induction letters generalizing piece with
  | nil => simp_all [pieces]
  | cons c rest ih =>
      simp only [pieces] at member
      split at member
      · rcases List.mem_cons.mp member with rfl | later
        · simp
        · exact ih later
      · rename_i other
        split at member
        · obtain rfl := List.mem_singleton.mp member
          simpa using Ne.symm other
        · rename_i first later split
          rcases List.mem_cons.mp member with rfl | member
          · have free := ih (split ▸ List.mem_cons_self)
            simp [free, Ne.symm other]
          · exact ih (split ▸ List.mem_cons_of_mem _ member)

/-- Every text is joined of pieces without dots. -/
theorem exists_parts (text : String) :
    ∃ parts : List String, (∀ part ∈ parts, '.' ∉ part.toList) ∧
      pieces text.toList = parts.map String.toList ∧ ".".intercalate parts = text := by
  refine ⟨(pieces text.toList).map String.ofList, ?_, ?_, ?_⟩
  · intro part member
    obtain ⟨piece, stands, rfl⟩ := List.mem_map.mp member
    rw [String.toList_ofList]
    exact separator_not_mem_pieces stands
  · rw [List.map_map]
    simp [Function.comp_def]
  · apply String.toList_injective
    simp [String.toList_intercalate, Function.comp_def, pieces_eq_splitOn]

theorem pieces_intercalate {parts : List String} (some : parts ≠ [])
    (separated : ∀ part ∈ parts, '.' ∉ part.toList) :
    pieces (".".intercalate parts).toList = parts.map String.toList := by
  have apart : ∀ letters ∈ parts.map String.toList, '.' ∉ letters := by
    intro letters member
    obtain ⟨part, stands, rfl⟩ := List.mem_map.mp member
    exact separated part stands
  rw [pieces_eq_splitOn, String.toList_intercalate]
  exact List.splitOn_intercalate '.' apart (by simpa using some)

theorem exists_readPiece_iff :
    (∃ segment, readPiece whole piece.toList = .ok segment) ↔ IsPiece piece := by
  rw [isPiece_iff_exists]
  apply exists_congr
  intro segment
  rw [readPiece_eq_ok_iff, Segment.render, ← String.toList_inj, String.toList_ofList]

private theorem beforeMarker?_toList_eq_some_iff {name : String} :
    beforeMarker? piece.toList = some name.toList ↔ piece = name ++ "[]" := by
  rw [beforeMarker?_eq_some_iff, ← String.toList_inj]
  simp [Segment.listMarker]

/-- In a piece without dots only brackets are reserved. -/
private theorem find?_bracket {letters : List Char} (separated : '.' ∉ letters) :
    letters.find? (fun c => c = '[' || c = ']') = letters.find? isReserved := by
  induction letters with
  | nil => rfl
  | cons c rest ih =>
      simp only [List.mem_cons, not_or] at separated
      have plain : c ≠ '.' := Ne.symm separated.1
      have same : isReserved c = (c = '[' || c = ']' : Bool) := by
        simp [isReserved, plain, beq_eq_decide]
      rw [List.find?_cons, List.find?_cons, same, ih separated.2]

private theorem append_two_markers (name : String) :
    name ++ "[][]" = name ++ "[]" ++ "[]" := by
  rw [String.append_assoc]
  rfl

theorem reports_of_readPiece (separated : '.' ∉ piece.toList)
    (failed : readPiece whole piece.toList = .error error) : Reports whole piece error := by
  unfold readPiece at failed
  split at failed
  · rename_i unmarked
    have plain (name : String) : piece ≠ name ++ "[]" := by
      intro marked
      cases unmarked.symm.trans (beforeMarker?_toList_eq_some_iff.mpr marked)
    rw [Segment.ofString_eq_error_iff, String.ofList_toList, FieldName.ofString_eq_error_iff]
      at failed
    rcases failed with ⟨rfl, rfl⟩ | ⟨character, found, rfl⟩
    · exact .empty
    · refine .reserved ?_ (plain "") (fun name => ?_) (.plain plain) ?_
      · rintro rfl
        cases found
      · rw [append_two_markers]
        exact plain (name ++ "[]")
      · rw [find?_bracket separated, found]
  · rename_i lone
    obtain rfl : piece = "" ++ "[]" := beforeMarker?_toList_eq_some_iff.mp lone
    cases failed
    exact .dangling
  · rename_i letters notLone marked
    obtain ⟨name, rfl⟩ : ∃ name : String, name.toList = letters :=
      ⟨String.ofList letters, String.toList_ofList⟩
    obtain rfl := beforeMarker?_toList_eq_some_iff.mp marked
    split at failed
    · rename_i again
      obtain ⟨inner, found⟩ := Option.isSome_iff_exists.mp again
      obtain ⟨inner, rfl⟩ : ∃ text : String, text.toList = inner :=
        ⟨String.ofList inner, String.toList_ofList⟩
      obtain rfl := beforeMarker?_toList_eq_some_iff.mp found
      cases failed
      rw [← append_two_markers]
      exact .repeated inner
    · rename_i single
      rw [Segment.ofString_eq_error_iff, String.ofList_toList, FieldName.ofString_eq_error_iff]
        at failed
      rcases failed with ⟨rfl, rfl⟩ | ⟨character, found, rfl⟩
      · exact absurd rfl notLone
      · have free : '.' ∉ name.toList := by simp_all
        refine .reserved ?_ ?_ (fun inner again => ?_) (.marked name) ?_
        · simp
        · simpa using notLone
        · rw [append_two_markers, String.append_left_inj] at again
          simp [beforeMarker?_toList_eq_some_iff.mpr again] at single
        · rw [find?_bracket free, found]

/-- A text is refused for what is wrong with its leftmost fault. -/
theorem parse_eq_error_iff :
    parse text = .error error ↔
      text ≠ "" ∧ ∃ piece, IsLeftmostFault text piece ∧
        readPiece text piece.toList = .error error := by
  have stops : parse text = .error error ↔
      text ≠ "" ∧ (pieces text.toList).mapM (readPiece text) = .error error := by
    unfold parse
    split
    · rename_i empty
      simp [empty]
    · rename_i written
      exact Traversal.return_eq_error_iff.trans (and_iff_right written).symm
  refine stops.trans (and_congr_right fun _ => ?_)
  constructor
  · intro stopped
    obtain ⟨parts, separated, listed, joined⟩ := exists_parts text
    rw [listed, List.mapM_map, Traversal.mapM_eq_error_iff] at stopped
    obtain ⟨before, piece, after, rfl, sound, fault⟩ := stopped
    have faulty : ¬ IsPiece piece := by
      intro accepted
      obtain ⟨segment, read⟩ := exists_readPiece_iff.mpr accepted
      cases fault.symm.trans read
    have leftmost := IsLeftmostFault.stands separated
      (fun earlier member => exists_readPiece_iff.mp (sound earlier member)) faulty
    exact ⟨piece, joined ▸ leftmost, fault⟩
  · intro refused
    obtain ⟨piece, ⟨separated, sound, faulty⟩, fault⟩ := refused
    rw [pieces_intercalate (by simp) separated, List.mapM_map, Traversal.mapM_eq_error_iff]
    exact ⟨_, piece, _, rfl, fun earlier member => exists_readPiece_iff.mpr (sound earlier member),
      fault⟩

theorem reports_of_leftmostFault (failed : parse text = .error error)
    (leftmost : IsLeftmostFault text piece) : Reports text piece error := by
  obtain ⟨written, _⟩ := parse_eq_error_iff.mp failed
  cases fault : readPiece text piece.toList with
  | ok segment =>
      cases leftmost with
      | stands _ _ faulty => exact absurd (exists_readPiece_iff.mp ⟨segment, fault⟩) faulty
  | error other =>
      have same := failed.symm.trans (parse_eq_error_iff.mpr ⟨written, piece, leftmost, fault⟩)
      cases same
      cases leftmost with
      | stands separated _ _ => exact reports_of_readPiece (separated piece (by simp)) fault

/-- A text that is refused has a leftmost piece that is none of the grammar, and what is reported is
decided by this piece: whether it is empty, a lone marker or ends in two markers, and otherwise by the
first bracket before its marker.  A dot is never reported. -/
theorem parse_reports_leftmost_fault {text : String} {error : PathError}
    (failed : parse text = .error error) :
    (∃ piece, IsLeftmostFault text piece) ∧
    (∀ piece, IsLeftmostFault text piece →
      (error = .emptySegment ↔ piece = "") ∧
      (error = .danglingMarker text ↔ piece = "[]") ∧
      (error = .repeatedMarker text ↔ ∃ name, piece = name ++ "[][]") ∧
      (piece ≠ "" ∧ piece ≠ "[]" ∧ (∀ name, piece ≠ name ++ "[][]") →
        ∃ name character, error = .reservedCharacter name character ∧ IsUnmarked piece name ∧
          name.toList.find? (fun c => c = '[' || c = ']') = some character)) ∧
    ∀ name, error ≠ .reservedCharacter name '.' := by
  have longer (name short : String) (bound : short.length < 4) : short ≠ name ++ "[][]" := by
    rintro rfl
    rw [String.length_append] at bound
    have markers : "[][]".length = 4 := rfl
    omega
  obtain ⟨_, first, leftmost, _⟩ := parse_eq_error_iff.mp failed
  refine ⟨⟨first, leftmost⟩, fun piece leftmost => ?_, fun name dotted => ?_⟩
  · cases reports_of_leftmostFault failed leftmost with
    | empty => simp [longer _ "" (by decide)]
    | dangling => simp [longer _ "[]" (by decide)]
    | repeated name => simp [(longer name "[]" (by decide)).symm]
    | @reserved _ name character written named single unmarked first =>
        simp only [reduceCtorEq, written, named, false_iff, not_exists, true_and]
        exact ⟨single, fun _ => ⟨name, character, rfl, unmarked, first⟩⟩
  · subst dotted
    cases reports_of_leftmostFault failed leftmost with
    | reserved _ _ _ _ first => simpa using List.find?_some first

/-- Of three faults the left one is reported, by the bracket before its marker. -/
theorem stray_bracket_is_reported :
    parse "work[].a[0][]..b[][]" = .error (.reservedCharacter "a[0]" '[') ∧
    ∃ piece, IsLeftmostFault "work[].a[0][]..b[][]" piece ∧
      piece ≠ "" ∧ piece ≠ "[]" ∧ ∀ name, piece ≠ name ++ "[][]" := by
  have failed : parse "work[].a[0][]..b[][]" = .error (.reservedCharacter "a[0]" '[') := by
    decide +kernel
  obtain ⟨⟨piece, leftmost⟩, decided, _⟩ := parse_reports_leftmost_fault failed
  obtain ⟨empty, dangling, repeated, _⟩ := decided piece leftmost
  refine ⟨failed, piece, leftmost, fun same => ?_, fun same => ?_, fun name same => ?_⟩
  · cases empty.mpr same
  · cases dangling.mpr same
  · cases repeated.mpr ⟨name, same⟩

end Concord.FieldPath
