import Concord.Files.Tree
import Concord.Proofs.Files.Path
import Concord.Proofs.Table
import Concord.Validation.Documents

namespace Concord.Validation

/-! A schema beside its siblings.

The schemas of a directory are registered for references, all but the one at hand, which is told
from the others by its path.  A path that is a name alone has no directory, and the directory is
listed as the one at hand: then no path of the listing is that of the schema.  The main statement
says what is registered for every spelling of a path.
-/

variable {files : Files.FileSystem} {schemaPath path own file : String}

/-- A path that is a name alone. -/
def IsBare (path : String) : Prop := Files.parent? path = some ""

instance : Decidable (IsBare path) := inferInstanceAs (Decidable (_ = _))

/-- The names in the directory of a file. -/
def namesBeside (files : Files.FileSystem) (path : String) : List String :=
  (files.names? (directoryOf path)).getD []

/-- The value in the file of this name beside another file. -/
def readBeside (files : Files.FileSystem) (path file : String) : Except ReadFailure Json :=
  readJson files (Files.join (directoryOf path) file)

/-- Two paths spell one file of one directory. -/
structure SameFile (files : Files.FileSystem) (path other : String) : Prop where
  name : Files.fileName? other = Files.fileName? path
  listing : files.names? (directoryOf other) = files.names? (directoryOf path)
  reading : ∀ file ∈ namesBeside files path,
    files.readText (Files.join (directoryOf other) file) =
      files.readText (Files.join (directoryOf path) file)

theorem isBare_iff (called : Files.fileName? path = some own) :
    IsBare path ↔ Files.components path = [.name own] := by
  obtain ⟨above, parts⟩ := Files.fileName?_eq_some_iff.mp called
  obtain ⟨parent, taken⟩ := Files.parent?_of_components parts
  rw [IsBare, parent, Option.some.injEq, parts]
  constructor
  · intro empty
    rw [empty] at taken
    rw [← taken]
    rfl
  · intro alone
    have empty : above = [] := by simpa using alone
    rw [empty]
    rfl

theorem directoryOf_of_isBare (bare : IsBare path) : directoryOf path = "." := by
  unfold directoryOf
  rw [bare]
  rfl

theorem components_directoryOf (called : Files.fileName? path = some own)
    (qualified : ¬ IsBare path) :
    Files.components path = Files.components (directoryOf path) ++ [.name own] := by
  obtain ⟨above, parts⟩ := Files.fileName?_eq_some_iff.mp called
  obtain ⟨parent, taken⟩ := Files.parent?_of_components parts
  have directory : directoryOf path = Files.ofComponents above := by
    rw [directoryOf, parent]
    split
    · rename_i missing
      cases missing
    · rename_i empty
      exact absurd (parent.trans empty) qualified
    · rename_i written
      exact (Option.some.inj written).symm
  rw [directory, taken, parts]

/-- Of the paths in the listing of a directory, that of the schema is the one with its name, if the
schema is spelled with a directory. -/
theorem same_join_iff (called : Files.fileName? path = some own) (entry : Files.IsEntryName file) :
    Files.same (Files.join (directoryOf path) file) path = true ↔ file = own ∧ ¬ IsBare path := by
  rw [Files.same, beq_iff_eq, Files.components_join_name entry]
  by_cases bare : IsBare path
  · rw [directoryOf_of_isBare bare, (isBare_iff called).mp bare]
    have here : Files.components "." = [.here] := by decide
    simp [here, bare]
  · rw [components_directoryOf called bare, List.append_cancel_left_eq]
    simp [bare]

/-- What a file adds to a registry: if it is a schema, its document by the name that it gives itself
and by the name of the file. -/
def entriesOf (read : String → Except ReadFailure Json) (file : String) : List (String × Json) :=
  match read file with
  | .ok document =>
      if Files.extension? file = some "json" then
        ((ownName? document).toList ++ [file]).map fun name => (name, document)
      else []
  | .error _ => []

/-- The registry of some files, in which the last document stands by each name. -/
def registryOf (read : String → Except ReadFailure Json) (files : List String) : Siblings :=
  .ofList (files.flatMap (entriesOf read))

theorem mem_entriesOf_iff {read : String → Except ReadFailure Json} {name : String}
    {document : Json} :
    (name, document) ∈ entriesOf read file ↔
      Files.extension? file = some "json" ∧ read file = .ok document ∧
        (ownName? document = some name ∨ file = name) := by
  unfold entriesOf
  split
  · rename_i found given
    rw [given, Except.ok.injEq]
    split
    · rename_i schema
      simp only [schema, true_and, List.mem_map, List.mem_append, Option.mem_toList,
        List.mem_singleton, Prod.mk.injEq]
      constructor
      · intro listed
        obtain ⟨other, named, rfl, rfl⟩ := listed
        exact ⟨rfl, named.imp id Eq.symm⟩
      · intro offered
        obtain ⟨rfl, named⟩ := offered
        exact ⟨name, named.imp id Eq.symm, rfl, rfl⟩
    · rename_i other
      simp [other]
  · rename_i fault given
    simp [given]

theorem register_eq_insertAll (siblings : Siblings) (document : Json)
    (called : Files.fileName? path = some file) :
    register siblings path document =
      siblings.insertAll
        (((ownName? document).toList ++ [file]).map fun name => (name, document)) := by
  unfold register
  rw [called]
  cases ownName? document <;> rfl

theorem registerFile_beside (siblings : Siblings) (called : Files.fileName? schemaPath = some own)
    (entry : Files.IsEntryName file) :
    registerFile files schemaPath siblings (Files.join (directoryOf schemaPath) file) =
      if file ≠ own ∨ IsBare schemaPath then
        siblings.insertAll (entriesOf (readBeside files schemaPath) file)
      else siblings := by
  have itself := same_join_iff called entry
  unfold registerFile
  rw [Files.extension?_join entry, ← readBeside]
  by_cases other : file ≠ own ∨ IsBare schemaPath
  · have different : Files.same (Files.join (directoryOf schemaPath) file) schemaPath = false := by
      rw [← Bool.not_eq_true, itself]
      tauto
    rw [if_pos other, different, Bool.false_or, entriesOf]
    by_cases schema : Files.extension? file = some "json"
    · cases readBeside files schemaPath file with
      | error fault => simp [schema, Table.insertAll]
      | ok document =>
          simp only [schema, bne_self_eq_false, Bool.false_eq_true, if_false, if_true]
          exact register_eq_insertAll siblings document (Files.fileName?_join entry)
    · cases readBeside files schemaPath file <;> simp [schema, Table.insertAll]
  · have same : Files.same (Files.join (directoryOf schemaPath) file) schemaPath = true := by
      rw [itself]
      tauto
    rw [if_neg other, same, Bool.true_or, if_pos rfl]

theorem foldl_registerFile_beside {names : List String}
    (called : Files.fileName? schemaPath = some own)
    (entries : ∀ file ∈ names, Files.IsEntryName file) (siblings : Siblings) :
    names.foldl (fun siblings file =>
        registerFile files schemaPath siblings (Files.join (directoryOf schemaPath) file)) siblings =
      siblings.insertAll ((names.filter fun file => file ≠ own ∨ IsBare schemaPath).flatMap
        (entriesOf (readBeside files schemaPath))) := by
  induction names generalizing siblings with
  | nil => rfl
  | cons file rest ih =>
      obtain ⟨entry, later⟩ := List.forall_mem_cons.mp entries
      rw [List.foldl_cons, registerFile_beside siblings called entry, ih later]
      by_cases other : file ≠ own ∨ IsBare schemaPath
      · rw [if_pos other, List.filter_cons_of_pos (by simpa using other), List.flatMap_cons,
          Table.insertAll, Table.insertAll, Table.insertAll, List.foldl_append]
      · rw [if_neg other, List.filter_cons_of_neg (by simpa using other)]

theorem siblingsOf_eq_registryOf (called : Files.fileName? schemaPath = some own)
    (entries : ∀ file ∈ namesBeside files schemaPath, Files.IsEntryName file) :
    siblingsOf files schemaPath =
      registryOf (readBeside files schemaPath)
        ((namesBeside files schemaPath).filter fun file => file ≠ own ∨ IsBare schemaPath) :=
  foldl_registerFile_beside called entries .empty

theorem SameFile.readBeside_eq {other : String} (spelled : SameFile files path other)
    (beside : file ∈ namesBeside files path) :
    readBeside files other file = readBeside files path file := by
  rw [readBeside, readBeside, readJson, readJson, spelled.reading file beside]

/-- Spellings of one file give one registry, unless one of them is bare. -/
theorem siblingsOf_of_sameFile {other : String} (called : Files.fileName? schemaPath = some own)
    (entries : ∀ file ∈ namesBeside files schemaPath, Files.IsEntryName file)
    (spelled : SameFile files schemaPath other) (alike : IsBare other ↔ IsBare schemaPath) :
    siblingsOf files other = siblingsOf files schemaPath := by
  have beside : namesBeside files other = namesBeside files schemaPath := by
    rw [namesBeside, spelled.listing, namesBeside]
  have otherCalled : Files.fileName? other = some own := spelled.name.trans called
  rw [siblingsOf_eq_registryOf called entries,
    siblingsOf_eq_registryOf otherCalled (beside ▸ entries), beside]
  simp only [alike, registryOf]
  apply congrArg Table.ofList
  apply List.flatMap_congr
  intro file member
  rw [entriesOf, entriesOf, spelled.readBeside_eq (List.mem_of_mem_filter member)]

/-- A path with a directory registers exactly the other schemas of the directory, each by the name
that it gives itself and by that of its file, and never the schema at hand; so all such spellings
of one file give the same registry.  A path that is a name alone registers the schema at hand as
well. -/
theorem siblings_leave_out_schema_unless_bare (called : Files.fileName? schemaPath = some own)
    (entries : ∀ file ∈ namesBeside files schemaPath, Files.IsEntryName file) :
    let names := namesBeside files schemaPath
    let read := readBeside files schemaPath
    (¬ IsBare schemaPath →
      siblingsOf files schemaPath = registryOf read (names.filter fun file => file ≠ own)) ∧
    (IsBare schemaPath → siblingsOf files schemaPath = registryOf read names) ∧
    (∀ file name document, (name, document) ∈ entriesOf read file ↔
      Files.extension? file = some "json" ∧ read file = .ok document ∧
        (ownName? document = some name ∨ file = name)) ∧
    ∀ other, SameFile files schemaPath other → ¬ IsBare schemaPath → ¬ IsBare other →
      siblingsOf files other = siblingsOf files schemaPath := by
  intro names read
  have registered := siblingsOf_eq_registryOf called entries
  refine ⟨fun qualified => ?_, fun bare => ?_, fun file name document => mem_entriesOf_iff,
    fun other spelled qualified otherQualified => ?_⟩
  · simpa only [qualified, or_false] using registered
  · simpa only [bare, or_true, decide_true, List.filter_true] using registered
  · exact siblingsOf_of_sameFile called entries spelled (iff_of_false otherQualified qualified)

/-- A schema that refers to a name which ends like that of its own file. -/
def filesWithOwnReference : Files.FileSystem :=
  (Files.Tree.ofLeaves [
    ("schema.json", .file ("\x7b\"type\": \"object\", \"properties\": " ++
      "\x7b\"year\": \x7b\"$ref\": \"https://example.org/schema.json\"\x7d\x7d\x7d").toUTF8),
    ("year.json", .file "\x7b\"type\": \"integer\"\x7d".toUTF8),
    ("old", .directory [])]).fileSystem

theorem spelling_with_dots_leaves_out_schema :
    let found := siblingsOf filesWithOwnReference
    found "./schema.json" =
        registryOf (readBeside filesWithOwnReference "./schema.json") ["year.json"] ∧
      found "old/../schema.json" = found "./schema.json" := by
  have names : namesBeside filesWithOwnReference "./schema.json" =
      ["schema.json", "year.json", "old"] := by
    decide +kernel
  have entries : ∀ file ∈ namesBeside filesWithOwnReference "./schema.json",
      Files.IsEntryName file := by
    rw [names]
    intro file member
    have each : file = "schema.json" ∨ file = "year.json" ∨ file = "old" := by simpa using member
    rcases each with rfl | rfl | rfl <;>
      exact ⟨by decide, by decide, by decide, by simp [Files.isSeparator]⟩
  have spelled : SameFile filesWithOwnReference "./schema.json" "old/../schema.json" := by
    refine ⟨by decide +kernel, by decide +kernel, ?_⟩
    rw [names]
    decide +kernel
  have called : Files.fileName? "./schema.json" = some "schema.json" := by decide +kernel
  obtain ⟨others, _, _, alike⟩ := siblings_leave_out_schema_unless_bare called entries
  have qualified : ¬ IsBare "./schema.json" := by decide +kernel
  refine ⟨?_, alike _ spelled qualified (by decide +kernel)⟩
  rw [others qualified, names]
  rfl

/-- The bare name spells the same file, but with it the schema is found under its own name. -/
theorem bare_schema_is_its_own_sibling :
    SameFile filesWithOwnReference "./schema.json" "schema.json" ∧
    (siblingsOf filesWithOwnReference "./schema.json").keys = ["year.json"] ∧
    (siblingsOf filesWithOwnReference "schema.json").keys = ["schema.json", "year.json"] := by
  have directory : directoryOf "schema.json" = directoryOf "./schema.json" := by decide +kernel
  refine ⟨⟨by decide +kernel, by rw [directory], fun file _ => by rw [directory]⟩, ?_⟩
  decide +kernel

end Concord.Validation
