import Concord.Decode
import Concord.Proofs.FieldPath.Reading
import Mathlib.Data.Set.List

namespace Concord.FieldPath

/-! The grammar of written paths.

A written path is empty, or one or more pieces with a dot between them, each a name with at most
one list marker behind it.  The main statement is that reading and writing are inverse to each
other between these texts and all paths, so that two paths are told apart by their written forms,
as keys of sets, in order and in JSON documents.
-/

def IsName (text : String) : Prop :=
  text ≠ "" ∧ ∀ c ∈ text.toList, c ≠ '.' ∧ c ≠ '[' ∧ c ≠ ']'

/-- A name with at most one list marker behind it. -/
inductive IsPiece : String → Prop where
  | plain {name : String} (named : IsName name) : IsPiece name
  | marked {name : String} (named : IsName name) : IsPiece (name ++ "[]")

inductive IsWritten : String → Prop where
  | root : IsWritten ""
  | joined {pieces : List String} (some : pieces ≠ []) (each : ∀ piece ∈ pieces, IsPiece piece) :
      IsWritten (".".intercalate pieces)

theorem isName_iff_exists {text : String} : IsName text ↔ ∃ name : FieldName, name.text = text := by
  have unreserved_iff (c : Char) : isReserved c = false ↔ c ≠ '.' ∧ c ≠ '[' ∧ c ≠ ']' := by
    simp [isReserved, and_assoc]
  constructor
  · intro named
    obtain ⟨nonempty, plain⟩ := named
    exact ⟨⟨text, nonempty, fun c member => (unreserved_iff c).mpr (plain c member)⟩, rfl⟩
  · intro written
    obtain ⟨name, rfl⟩ := written
    exact ⟨name.nonempty, fun c member => (unreserved_iff c).mp (name.unreserved c member)⟩

theorem isPiece_iff_exists {piece : String} :
    IsPiece piece ↔ ∃ segment : Segment, segment.render = piece := by
  constructor
  · intro written
    rcases written with named | named
    · obtain ⟨name, rfl⟩ := isName_iff_exists.mp named
      exact ⟨⟨name, false⟩, by simp [Segment.render, Segment.chars]⟩
    · obtain ⟨name, rfl⟩ := isName_iff_exists.mp named
      exact ⟨⟨name, true⟩, by simp [Segment.render, Segment.chars, Segment.listMarker]⟩
  · intro rendered
    obtain ⟨⟨name, list⟩, rfl⟩ := rendered
    have named := isName_iff_exists.mpr ⟨name, rfl⟩
    cases list with
    | false => simpa [Segment.render, Segment.chars] using IsPiece.plain named
    | true =>
        simpa [Segment.render, Segment.chars, Segment.listMarker] using IsPiece.marked named

theorem render_eq_intercalate (path : FieldPath) :
    path.render = ".".intercalate (path.segments.map Segment.render) := by
  apply String.toList_injective
  have letters : String.toList ∘ Segment.render = Segment.chars := by
    funext segment
    simp [Segment.render]
  rw [String.toList_intercalate, List.map_map, letters, render, String.toList_ofList, chars]
  rfl

/-- The texts of the grammar are the written forms of paths. -/
theorem isWritten_iff_exists {text : String} :
    IsWritten text ↔ ∃ path : FieldPath, path.render = text := by
  constructor
  · intro written
    cases written with
    | root => exact ⟨root, rfl⟩
    | @joined pieces _ each =>
        have rendered : pieces ∈ Set.range (List.map Segment.render) := by
          rw [Set.range_list_map]
          exact fun piece member => isPiece_iff_exists.mp (each piece member)
        obtain ⟨segments, rfl⟩ := rendered
        exact ⟨⟨segments⟩, render_eq_intercalate _⟩
  · intro rendered
    obtain ⟨⟨segments⟩, rfl⟩ := rendered
    cases segments with
    | nil => exact .root
    | cons first rest =>
        rw [render_eq_intercalate]
        apply IsWritten.joined (by simp)
        intro piece member
        obtain ⟨segment, _, rfl⟩ := List.mem_map.mp member
        exact isPiece_iff_exists.mpr ⟨segment, rfl⟩

theorem lt_trichotomy_iff {path other : FieldPath} :
    ¬ path < other ∧ ¬ other < path ↔ path = other := by
  constructor
  · intro unordered
    obtain ⟨notBefore, notAfter⟩ := unordered
    exact render_injective (String.le_antisymm (String.not_lt.mp notAfter)
      (String.not_lt.mp notBefore))
  · intro same
    subst same
    exact ⟨String.lt_irrefl _, String.lt_irrefl _⟩

theorem ofJson_string_render (path : FieldPath) : ofJson (.string path.render) = .ok path := by
  have read : parse path.render = .ok path := parse_eq_ok_iff.mpr rfl
  change (parse path.render).mapError DecodeError.path = .ok path
  rw [read]
  rfl

theorem eq_iff_segments_eq {path other : FieldPath} :
    path = other ↔ path.segments = other.segments := by
  cases path
  cases other
  simp

theorem render_field (name : FieldName) : (field name).render = name.text := by
  simp [field, render, chars, Segment.chars, List.intercalate]

theorem endsWith_iff {path : FieldPath} {text : String} :
    path.endsWith text = true ↔ ∃ leaf, path.leaf? = some leaf ∧ leaf.text = text := by
  rw [endsWith, decide_eq_true_eq, Option.map_eq_some_iff]

/-- Paths end with names only. -/
theorem endsWith_eq_false_of_not_isName {path : FieldPath} {text : String}
    (reserved : ¬ IsName text) : path.endsWith text = false := by
  rw [← Bool.not_eq_true, endsWith_iff]
  intro ends
  obtain ⟨leaf, _, rfl⟩ := ends
  exact reserved (isName_iff_exists.mpr ⟨leaf, rfl⟩)

/-- A path that is written like a name is that name alone. -/
theorem exists_eq_field_of_isName {path : FieldPath} (named : IsName path.render) :
    ∃ name, path = field name := by
  obtain ⟨name, same⟩ := isName_iff_exists.mp named
  exact ⟨name, render_injective ((render_field name).trans same).symm⟩

/-- Reading inverts writing: exactly the texts of the grammar are read, each as the path that is
written so, and every list of segments is read back as it is.  Equality of written forms, which
decides order and membership in sets, is equality of segments. -/
theorem parse_render_inverse :
    (∀ text, (∃ path, parse text = .ok path) ↔ IsWritten text) ∧
    (∀ text path, parse text = .ok path ↔ path.render = text) ∧
    (∀ name list segment, Segment.ofString name list = .ok segment ↔
      segment.name.text = name ∧ segment.list = list) ∧
    (∀ segments : List Segment, parse (render ⟨segments⟩) = .ok ⟨segments⟩) ∧
    (∀ path other : FieldPath, key path = key other ↔ path.segments = other.segments) ∧
    (∀ path other : FieldPath,
      ¬ path < other ∧ ¬ other < path ↔ path.segments = other.segments) ∧
    (∀ (paths : List FieldPath) (path : FieldPath),
      (SortedSet.ofList paths).contains path = true ↔
        ∃ other ∈ paths, path.segments = other.segments) ∧
    (∀ path : FieldPath, ofJson (.string path.render) = .ok path) := by
  refine ⟨fun text => ?_, fun text path => parse_eq_ok_iff,
    fun name list segment => Segment.ofString_eq_ok_iff, fun segments => parse_eq_ok_iff.mpr rfl,
    fun path other => ?_, fun path other => ?_, fun paths path => ?_, ofJson_string_render⟩
  · simp only [parse_eq_ok_iff]
    exact isWritten_iff_exists.symm
  · rw [key_eq_iff, eq_iff_segments_eq]
  · rw [lt_trichotomy_iff, eq_iff_segments_eq]
  · rw [SortedSet.contains_iff_mem, SortedSet.mem_ofList]
    constructor
    · intro member
      exact ⟨path, member, rfl⟩
    · intro listed
      obtain ⟨other, member, same⟩ := listed
      rw [eq_iff_segments_eq.mpr same]
      exact member

end Concord.FieldPath
