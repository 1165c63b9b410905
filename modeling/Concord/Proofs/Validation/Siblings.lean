import Concord.Proofs.Table
import Concord.Validation.Documents
import Mathlib.Data.List.Perm.Basic
import Mathlib.Logic.Function.Basic

namespace Concord.Validation

/-! The schemas beside a schema, and the order in which their directory lists them.

Every file of the directory that holds a schema is registered under up to two names, and of the
documents that go by one name the last one listed stays.  The main statement says for which
references the order of the listing does not matter.
-/

variable {files : Files.FileSystem} {schemaPath path name uri : String} {document : Json}

/-- A file with a schema other than the one at hand. -/
structure IsSibling (files : Files.FileSystem) (schemaPath path : String) (document : Json) :
    Prop where
  different : Files.same path schemaPath = false
  extension : Files.extension? path = some "json"
  read : readJson files path = .ok document

/-- A document goes by the name that it gives itself and by the name of its file. -/
def GoesBy (path : String) (document : Json) (name : String) : Prop :=
  ownName? document = some name ∨ Files.fileName? path = some name

instance : Decidable (GoesBy path document name) := inferInstanceAs (Decidable (_ ∨ _))

theorem get?_register (siblings : Siblings) :
    (register siblings path document).get? name =
      if GoesBy path document name then some document else siblings.get? name := by
  unfold register
  cases given : ownName? document with
  | none =>
      cases last : Files.fileName? path <;>
        simp [GoesBy, given, last, Table.get?_insert, key_eq_iff]
  | some own =>
      cases last : Files.fileName? path with
      | none => simp [GoesBy, given, last, Table.get?_insert, key_eq_iff]
      | some file =>
          by_cases named : file = name <;>
            simp [GoesBy, given, last, Table.get?_insert, key_eq_iff, named]

/-- What the file at a path adds under a name. -/
def offered? (files : Files.FileSystem) (schemaPath name path : String) : Option Json :=
  if Files.same path schemaPath || Files.extension? path != some "json" then none
  else
    match readJson files path with
    | .ok document => if GoesBy path document name then some document else none
    | .error _ => none

theorem offered?_eq_some_iff :
    offered? files schemaPath name path = some document ↔
      IsSibling files schemaPath path document ∧ GoesBy path document name := by
  unfold offered?
  split
  · rename_i passedOver
    refine iff_of_false (by simp) fun offered => ?_
    simp [offered.1.different, offered.1.extension] at passedOver
  · rename_i kept
    simp only [Bool.or_eq_true, bne_iff_ne, not_or, Bool.not_eq_true, not_not] at kept
    split
    · rename_i found read
      constructor
      · intro given
        split at given
        · rename_i goes
          cases given
          exact ⟨⟨kept.1, kept.2, read⟩, goes⟩
        · cases given
      · intro offered
        obtain rfl : found = document := Except.ok.inj (read.symm.trans offered.1.read)
        rw [if_pos offered.2]
    · rename_i fault
      refine iff_of_false (by simp) fun offered => ?_
      rw [offered.1.read] at fault
      cases fault

theorem get?_registerFile (siblings : Siblings) :
    (registerFile files schemaPath siblings path).get? name =
      (offered? files schemaPath name path).or (siblings.get? name) := by
  unfold registerFile offered?
  split
  · rfl
  · cases readJson files path with
    | error fault => rfl
    | ok document =>
        simp only [get?_register]
        split <;> rfl

/-- Of the documents that go by a name the last one stays. -/
theorem get?_foldl_registerFile (paths : List String) (siblings : Siblings) :
    (paths.foldl (registerFile files schemaPath) siblings).get? name =
      (paths.filterMap (offered? files schemaPath name)).getLast?.or (siblings.get? name) := by
  induction paths generalizing siblings with
  | nil => rfl
  | cons path rest ih =>
      rw [List.foldl_cons, ih, get?_registerFile]
      cases offered : offered? files schemaPath name path with
      | none => rw [List.filterMap_cons_none offered, Option.none_or]
      | some document =>
          rw [List.filterMap_cons_some offered, List.getLast?_cons]
          cases (rest.filterMap (offered? files schemaPath name)).getLast? <;> rfl

theorem offered?_congr {other : Files.FileSystem} (same : files.readText = other.readText) :
    offered? files schemaPath name = offered? other schemaPath name := by
  unfold offered? readJson
  rw [same]

/-- The files with a directory that lists these names. -/
def listing (files : Files.FileSystem) (directory : String) (names : List String) :
    Files.FileSystem :=
  Function.update files directory (.directory names)

/-- What a directory lists cannot be seen in the texts of files. -/
theorem readText_listing (directory : String) (names others : List String) :
    (listing files directory names).readText = (listing files directory others).readText := by
  funext path
  unfold listing Files.FileSystem.readText
  by_cases here : path = directory
  · subst here
    rw [Function.update_self, Function.update_self]
  · rw [Function.update_of_ne here, Function.update_of_ne here]

/-- The documents beside a schema that go by a name, in the order of the names of their files. -/
def namesakes (files : Files.FileSystem) (schemaPath name : String) (names : List String) :
    List Json :=
  names.filterMap fun file => offered? files schemaPath name
    (Files.join (directoryOf schemaPath) file)

variable {names : List String}

/-- A document goes by a name if its file is listed beside the schema and either names it so. -/
def IsNamesake (files : Files.FileSystem) (schemaPath : String) (names : List String)
    (name : String) (document : Json) : Prop :=
  ∃ file ∈ names, IsSibling files schemaPath (Files.join (directoryOf schemaPath) file) document ∧
    GoesBy (Files.join (directoryOf schemaPath) file) document name

theorem mem_namesakes_iff :
    document ∈ namesakes files schemaPath name names ↔
      IsNamesake files schemaPath names name document := by
  simp only [namesakes, List.mem_filterMap, offered?_eq_some_iff, IsNamesake]

theorem get?_siblingsOf (listed : files (directoryOf schemaPath) = .directory names) :
    (siblingsOf files schemaPath).get? name =
      (namesakes files schemaPath name names).getLast? := by
  have found : files.names? (directoryOf schemaPath) = some names := by
    rw [Files.FileSystem.names?, listed]
  rw [siblingsOf, found, Option.getD_some, ← List.foldl_map, get?_foldl_registerFile,
    List.filterMap_map]
  exact Option.or_none

/-- The documents that a reference chooses from: those that go by all of it and, only if there are
none, those that go by its last part. -/
inductive Answers (files : Files.FileSystem) (schemaPath : String) (names : List String)
    (uri : String) (document : Json) : Prop where
  | whole (named : IsNamesake files schemaPath names uri document)
  | part (unknown : ∀ other, ¬ IsNamesake files schemaPath names uri other)
      (named : IsNamesake files schemaPath names (Siblings.lastPart uri) document)

/-- The name that a reference is looked up by. -/
def lookedUp (files : Files.FileSystem) (schemaPath uri : String) (names : List String) : String :=
  if namesakes files schemaPath uri names = [] then Siblings.lastPart uri else uri

theorem isNamesake_lookedUp_iff :
    IsNamesake files schemaPath names (lookedUp files schemaPath uri names) document ↔
      Answers files schemaPath names uri document := by
  unfold lookedUp
  split
  · rename_i unknown
    have absent (other : Json) : ¬ IsNamesake files schemaPath names uri other := by
      rw [← mem_namesakes_iff, unknown]
      exact List.not_mem_nil
    constructor
    · exact .part absent
    · intro answers
      cases answers with
      | whole named => exact absurd named (absent document)
      | part _ named => exact named
  · rename_i known
    obtain ⟨other, member⟩ := List.exists_mem_of_ne_nil _ known
    constructor
    · exact .whole
    · intro answers
      cases answers with
      | whole named => exact named
      | part unknown _ => exact absurd (mem_namesakes_iff.mp member) (unknown other)

/-- A reference is answered by the last document that it chooses from. -/
theorem retrieve_siblingsOf (listed : files (directoryOf schemaPath) = .directory names) :
    (siblingsOf files schemaPath).retrieve uri =
      (namesakes files schemaPath (lookedUp files schemaPath uri names) names).getLast?.getD
        (.object []) := by
  rw [Siblings.retrieve, get?_siblingsOf listed, get?_siblingsOf listed, lookedUp]
  cases last : (namesakes files schemaPath uri names).getLast? with
  | none => rw [if_pos (List.getLast?_eq_none_iff.mp last)]
  | some document =>
      have known : namesakes files schemaPath uri names ≠ [] := by
        intro empty
        simp [empty] at last
      rw [if_neg known, last, Option.getD_some]

/-- Lists of the same items end alike if all items are alike. -/
theorem getLast?_alike_of_perm {α : Type u} {β : Type v} {view : α → β} {items others : List α}
    (reordered : items.Perm others) (alike : ∀ a ∈ items, ∀ b ∈ items, view a = view b)
    (missing : α) :
    view (items.getLast?.getD missing) = view (others.getLast?.getD missing) := by
  cases last : items.getLast? with
  | none =>
      obtain rfl := List.getLast?_eq_none_iff.mp last
      rw [reordered.nil_eq.symm, List.getLast?_nil]
  | some a =>
      cases otherLast : others.getLast? with
      | none =>
          obtain rfl := List.getLast?_eq_none_iff.mp otherLast
          rw [reordered.eq_nil] at last
          cases last
      | some b =>
          exact alike a (List.mem_of_getLast? last) b
            (reordered.mem_iff.mpr (List.mem_of_getLast? otherLast))

/-- Any of the results comes last in some order of the items. -/
theorem exists_perm_of_mem_filterMap {α : Type u} {β : Type v} {read : α → Option β}
    {items : List α} {b : β} (member : b ∈ items.filterMap read) :
    ∃ others : List α, others.Perm items ∧ (others.filterMap read).getLast? = some b := by
  obtain ⟨a, stands, given⟩ := List.mem_filterMap.mp member
  obtain ⟨before, after, rfl⟩ := List.append_of_mem stands
  refine ⟨before ++ after ++ [a], ?_, ?_⟩
  · exact (List.perm_append_singleton a (before ++ after)).trans List.perm_middle.symm
  · rw [List.filterMap_append, List.filterMap_cons_some given, List.filterMap_nil,
      List.getLast?_concat]

private theorem namesakes_listing (name : String) (shown others listed : List String) :
    namesakes (listing files (directoryOf schemaPath) shown) schemaPath name listed =
      namesakes (listing files (directoryOf schemaPath) others) schemaPath name listed := by
  rw [namesakes, offered?_congr (readText_listing _ shown others), namesakes]

section Reordered

variable {shown : List String} (reordered : shown.Perm names)

include reordered

theorem perm_namesakes (name : String) :
    (namesakes files schemaPath name shown).Perm (namesakes files schemaPath name names) :=
  reordered.filterMap _

theorem lookedUp_eq_of_perm :
    lookedUp files schemaPath uri shown = lookedUp files schemaPath uri names := by
  have unknown : namesakes files schemaPath uri shown = [] ↔
      namesakes files schemaPath uri names = [] := by
    rw [← List.isEmpty_iff, (perm_namesakes reordered uri).isEmpty_eq, List.isEmpty_iff]
  simp only [lookedUp, unknown]

/-- The order of a listing is the order of the documents that a reference chooses from. -/
theorem retrieve_listing :
    (siblingsOf (listing files (directoryOf schemaPath) shown) schemaPath).retrieve uri =
      (namesakes (listing files (directoryOf schemaPath) names) schemaPath
        (lookedUp (listing files (directoryOf schemaPath) names) schemaPath uri names)
        shown).getLast?.getD (.object []) := by
  have listed : listing files (directoryOf schemaPath) shown (directoryOf schemaPath) =
      .directory shown := Function.update_self ..
  rw [retrieve_siblingsOf listed, lookedUp, namesakes_listing uri shown names, ← lookedUp,
    lookedUp_eq_of_perm reordered, namesakes_listing _ shown names]

end Reordered

/-- A reference finds the same schema for all orders in which the directory may list these names. -/
def IgnoresListing (files : Files.FileSystem) (schemaPath : String) (names : List String)
    (uri : String) : Prop :=
  let within := listing files (directoryOf schemaPath)
  ∀ first second, first.Perm names → second.Perm names →
    ((siblingsOf (within first) schemaPath).retrieve uri).normal =
      ((siblingsOf (within second) schemaPath).retrieve uri).normal

theorem ignoresListing_iff :
    IgnoresListing files schemaPath names uri ↔
      let within := listing files (directoryOf schemaPath) names
      ∀ document other, Answers within schemaPath names uri document →
        Answers within schemaPath names uri other → document.normal = other.normal := by
  simp only [← isNamesake_lookedUp_iff, ← mem_namesakes_iff]
  constructor
  · intro ignored document other member otherMember
    obtain ⟨first, reordered, last⟩ := exists_perm_of_mem_filterMap member
    obtain ⟨second, otherReordered, otherLast⟩ := exists_perm_of_mem_filterMap otherMember
    have found := ignored first second reordered otherReordered
    rw [retrieve_listing reordered, retrieve_listing otherReordered, namesakes, last, namesakes,
      otherLast] at found
    exact found
  · intro alike first second reordered otherReordered
    rw [retrieve_listing reordered, retrieve_listing otherReordered]
    apply getLast?_alike_of_perm (perm_namesakes (reordered.trans otherReordered.symm) _)
    intro document member other otherMember
    exact alike document other ((perm_namesakes reordered _).mem_iff.mp member)
      ((perm_namesakes reordered _).mem_iff.mp otherMember)

/-- A reference finds the same schema for all orders in which a directory may list its files if and
only if all documents that it chooses from are the same.  So the order matters for no reference if no
two documents beside the schema that differ go by one name. -/
theorem retrieval_ignores_listing_iff (files : Files.FileSystem) (schemaPath : String)
    (names : List String) :
    let within := listing files (directoryOf schemaPath) names
    (∀ uri, IgnoresListing files schemaPath names uri ↔
      ∀ document other, Answers within schemaPath names uri document →
        Answers within schemaPath names uri other → document.normal = other.normal) ∧
    ((∀ name document other, IsNamesake within schemaPath names name document →
        IsNamesake within schemaPath names name other → document.normal = other.normal) →
      ∀ uri, IgnoresListing files schemaPath names uri) := by
  intro within
  refine ⟨fun uri => ignoresListing_iff, fun apart uri => ignoresListing_iff.mpr ?_⟩
  intro within document other answers otherAnswers
  exact apart (lookedUp within schemaPath uri names) document other
    (isNamesake_lookedUp_iff.mpr answers) (isNamesake_lookedUp_iff.mpr otherAnswers)

/-- Two documents that give themselves the same name. -/
def filesWithNamesakes : Files.FileSystem :=
  .ofEntries [
    ("d/schema.json", .file "\x7b\x7d".toUTF8),
    ("d/year.json", .file
      "\x7b\"$id\": \"https://example.org/year\", \"type\": \"integer\"\x7d".toUTF8),
    ("d/date.json", .file
      "\x7b\"$id\": \"https://example.org/year\", \"type\": \"string\"\x7d".toUTF8)]

theorem namesakes_answer_by_listing :
    ¬ IgnoresListing filesWithNamesakes "d/schema.json" ["schema.json", "year.json", "date.json"]
      "https://example.org/year" := by
  intro ignored
  let typeFor (names : List String) : Option String :=
    let found := siblingsOf (listing filesWithNamesakes "d" names) "d/schema.json"
    ((found.retrieve "https://example.org/year").normal.get? "type").bind Json.string?
  have same : typeFor ["schema.json", "year.json", "date.json"] =
      typeFor ["schema.json", "date.json", "year.json"] :=
    congrArg (fun schema => (schema.get? "type").bind Json.string?)
      (ignored _ _ (.refl _) (.cons _ (.swap ..)))
  have types : typeFor ["schema.json", "year.json", "date.json"] = some "string" ∧
      typeFor ["schema.json", "date.json", "year.json"] = some "integer" := by
    decide +kernel
  rw [types.1, types.2] at same
  exact absurd same (by decide)

end Concord.Validation
