import Concord.Decode
import Concord.Proofs.FieldPath.Grammar

namespace Concord

/-! Checklists and the texts that they are made from.

The texts are checked in the order in which they are given, the section before the fields, and the
first that is none decides the error.  Of a list that is accepted only its members are kept, so a
checklist has one form, which is also read back from its JSON value.
-/

theorem FieldName.text_mem_map_iff {names : List FieldName} {name : FieldName} :
    name.text ∈ names.map (·.text) ↔ name ∈ names :=
  List.mem_map_of_injective fun _ _ => text_injective

namespace Drift.Checklist

variable {key : String} {fields others : List String} {checklist : Checklist} {fault : PathError}

theorem exists_ofString_iff {text : String} :
    (∃ name, FieldName.ofString text = .ok name) ↔ FieldPath.IsName text := by
  simp only [FieldName.ofString_eq_ok_iff]
  exact FieldPath.isName_iff_exists.symm

/-- The names that a list of texts is read as are those of its texts. -/
theorem mem_names_iff {names : List FieldName} (read : fields.mapM FieldName.ofString = .ok names)
    {name : FieldName} : name ∈ names ↔ name.text ∈ fields := by
  have each := Traversal.mapM_eq_ok_iff.mp read
  simp only [FieldName.ofString_eq_ok_iff] at each
  have texts : names.map (·.text) = fields := by
    rw [← List.forall₂_eq_eq_eq, List.forall₂_map_left_iff]
    exact each.flip
  rw [← texts, FieldName.text_mem_map_iff]

theorem exists_names_iff :
    (∃ names, fields.mapM FieldName.ofString = .ok names) ↔
      ∀ text ∈ fields, FieldPath.IsName text := by
  simp only [Traversal.exists_mapM_eq_ok_iff, exists_ofString_iff]

theorem ofTexts_eq_ok_iff :
    ofTexts key fields = .ok checklist ↔
      checklist.sectionPath.render = key ∧ (∀ text ∈ fields, FieldPath.IsName text) ∧
        ∀ name, name ∈ checklist.fields ↔ name.text ∈ fields := by
  unfold ofTexts
  rw [Traversal.bind_eq_ok_iff]
  constructor
  · intro accepted
    obtain ⟨sectionPath, written, rest⟩ := accepted
    obtain ⟨names, read, whole⟩ := Traversal.bind_eq_ok_iff.mp rest
    cases whole
    refine ⟨FieldPath.parse_eq_ok_iff.mp written, exists_names_iff.mp ⟨names, read⟩, fun name => ?_⟩
    rw [SortedSet.mem_ofList, mem_names_iff read]
  · intro made
    obtain ⟨written, plain, listed⟩ := made
    obtain ⟨names, read⟩ := exists_names_iff.mpr plain
    have same : checklist.fields = .ofList names := by
      apply SortedSet.ext
      intro name
      rw [listed, SortedSet.mem_ofList, mem_names_iff read]
    refine ⟨checklist.sectionPath, FieldPath.parse_eq_ok_iff.mpr written,
      Traversal.bind_eq_ok_iff.mpr ⟨names, read, ?_⟩⟩
    rw [← same]
    rfl

theorem exists_ofTexts_iff :
    (∃ checklist, ofTexts key fields = .ok checklist) ↔
      FieldPath.IsWritten key ∧ ∀ text ∈ fields, FieldPath.IsName text := by
  rw [FieldPath.isWritten_iff_exists]
  constructor
  · intro accepted
    obtain ⟨checklist, made⟩ := accepted
    obtain ⟨written, plain, _⟩ := ofTexts_eq_ok_iff.mp made
    exact ⟨⟨checklist.sectionPath, written⟩, plain⟩
  · intro sound
    obtain ⟨⟨sectionPath, written⟩, plain⟩ := sound
    obtain ⟨names, read⟩ := exists_names_iff.mpr plain
    refine ⟨⟨sectionPath, .ofList names⟩, ofTexts_eq_ok_iff.mpr ⟨written, plain, fun name => ?_⟩⟩
    rw [SortedSet.mem_ofList, mem_names_iff read]

/-- The section is at fault first, and then the first field that is. -/
theorem ofTexts_eq_error_iff :
    ofTexts key fields = .error fault ↔
      FieldPath.parse key = .error fault ∨
        FieldPath.IsWritten key ∧ ∃ before text after, fields = before ++ text :: after ∧
          (∀ earlier ∈ before, FieldPath.IsName earlier) ∧
          FieldName.ofString text = .error fault := by
  unfold ofTexts
  cases parsed : FieldPath.parse key with
  | error other =>
      have unwritten : ¬ FieldPath.IsWritten key := by
        rw [FieldPath.isWritten_iff_exists]
        intro written
        obtain ⟨path, rendered⟩ := written
        cases parsed.symm.trans (FieldPath.parse_eq_ok_iff.mpr rendered)
      rw [or_iff_left fun later => unwritten later.1]
      simp [bind, Except.bind]
  | ok sectionPath =>
      have written : FieldPath.IsWritten key :=
        FieldPath.isWritten_iff_exists.mpr ⟨sectionPath, FieldPath.parse_eq_ok_iff.mp parsed⟩
      have stops : (do
            let names ← fields.mapM FieldName.ofString
            return { sectionPath, fields := SortedSet.ofList names : Checklist }) =
          Except.error fault ↔ fields.mapM FieldName.ofString = .error fault :=
        Traversal.return_eq_error_iff
      refine stops.trans (Traversal.mapM_eq_error_iff.trans ?_)
      simp only [exists_ofString_iff, reduceCtorEq, false_or, written, true_and]

/-- Only which fields are listed matters, not in what order or how often. -/
theorem ofTexts_congr (same : ∀ text, text ∈ fields ↔ text ∈ others) :
    (ofTexts key fields).toOption = (ofTexts key others).toOption := by
  apply Option.ext
  intro checklist
  have opened (read : Except PathError Checklist) :
      read.toOption = some checklist ↔ read = .ok checklist := by
    cases read <;> simp [Except.toOption]
  rw [opened, opened, ofTexts_eq_ok_iff, ofTexts_eq_ok_iff]
  simp only [same]

theorem decodeStrings_strings (texts : List String) :
    (Json.strings texts).decodeStrings = .ok texts := by
  change (texts.map Json.string).mapM Json.decodeString = .ok texts
  rw [Traversal.mapM_eq_ok_iff, List.forall₂_map_left_iff, List.forall₂_same]
  exact fun _ _ => rfl

/-- The members are looked at in the order of their names. -/
theorem partsOfJson_toJson (checklist : Checklist) :
    partsOfJson checklist.toJson =
      .ok (checklist.sectionPath.render, checklist.fields.toList.map (·.text)) := by
  have ordered (key fields : Json) :
      (Table.ofList [("key", key), ("fields", fields)]).entries =
        [("fields", fields), ("key", key)] := by
    have before : Keyed.key "fields" < Keyed.key "key" := by decide
    change Table.place "fields" (fun _ => fields) [("key", key)] = _
    rw [Table.place, if_pos before]
  have texts := decodeStrings_strings (checklist.fields.toList.map (·.text))
  simp only [partsOfJson, toJson, ordered, List.foldlM_cons, List.foldlM_nil, Draft.readMember,
    texts, Json.decodeString]
  rfl

theorem ofJson_eq_ok_iff {value : Json} :
    ofJson value = .ok checklist ↔
      ∃ key fields, partsOfJson value = .ok (key, fields) ∧ ofTexts key fields = .ok checklist := by
  unfold ofJson
  rw [Traversal.bind_eq_ok_iff, Prod.exists]
  simp only [Traversal.mapError_eq_ok_iff]

theorem ofTexts_render (checklist : Checklist) :
    ofTexts checklist.sectionPath.render (checklist.fields.toList.map (·.text)) =
      .ok checklist := by
  refine ofTexts_eq_ok_iff.mpr ⟨rfl, fun text member => ?_, fun name => ?_⟩
  · obtain ⟨name, _, rfl⟩ := List.mem_map.mp member
    exact FieldPath.isName_iff_exists.mpr ⟨name, rfl⟩
  · exact FieldName.text_mem_map_iff.symm

/-- Exactly the texts of a path and of names make a checklist, and otherwise the section decides the
error or, after it, the first field that is no name.  A checklist has the members of its list, so
neither their order nor their number matters, and it is read back from its JSON value as it is. -/
theorem checklists_have_one_form :
    (∀ key fields, (∃ checklist, ofTexts key fields = .ok checklist) ↔
      FieldPath.IsWritten key ∧ ∀ text ∈ fields, FieldPath.IsName text) ∧
    (∀ key fields fault, ofTexts key fields = .error fault ↔
      FieldPath.parse key = .error fault ∨
        FieldPath.IsWritten key ∧ ∃ before text after, fields = before ++ text :: after ∧
          (∀ earlier ∈ before, FieldPath.IsName earlier) ∧
          FieldName.ofString text = .error fault) ∧
    (∀ key fields checklist, ofTexts key fields = .ok checklist ↔
      checklist.sectionPath.render = key ∧ (∀ text ∈ fields, FieldPath.IsName text) ∧
        ∀ name, name ∈ checklist.fields ↔ name.text ∈ fields) ∧
    (∀ (key : String) (fields others : List String),
      (∀ text, text ∈ fields ↔ text ∈ others) →
        (ofTexts key fields).toOption = (ofTexts key others).toOption) ∧
    ∀ checklist, ofJson checklist.toJson = .ok checklist := by
  refine ⟨fun key fields => exists_ofTexts_iff, fun key fields fault => ofTexts_eq_error_iff,
    fun key fields checklist => ofTexts_eq_ok_iff, fun key fields others same => ofTexts_congr same,
    fun checklist => ?_⟩
  exact ofJson_eq_ok_iff.mpr ⟨_, _, partsOfJson_toJson checklist, ofTexts_render checklist⟩

example : (ofTexts "work[]" ["position", "a.b", "c]"]).map (·.sectionPath) =
    .error (.reservedCharacter "a.b" '.') := by decide +kernel

end Drift.Checklist

end Concord
