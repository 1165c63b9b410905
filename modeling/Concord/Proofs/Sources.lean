import Concord.Proofs.Traversal
import Concord.Sources
import Mathlib.Logic.Function.Basic

namespace Concord

namespace Representation

theorem mem_all (representation : Representation) : representation ∈ all := by
  cases representation <;> decide

/-- Of lists that are about one representation each, taken together, what is about one of them is
its own list. -/
theorem filter_flatMap_all {part : Representation → List α} {owner : α → Representation}
    (own : ∀ representation, ∀ a ∈ part representation, owner a = representation)
    (representation : Representation) :
    (all.flatMap part).filter (fun a => owner a = representation) = part representation := by
  have each (other : Representation) :
      (part other).filter (fun a => owner a = representation) =
        if other = representation then part other else [] := by
    split
    · rename_i here
      apply List.filter_eq_self.mpr
      intro a member
      simp [own other a member, here]
    · rename_i elsewhere
      apply List.filter_eq_nil_iff.mpr
      intro a member
      simp [own other a member, elsewhere]
  rw [List.filter_flatMap]
  simp only [each]
  cases representation <;> simp [all]

end Representation

namespace Sources

/-! The documents of a schema version, each loaded from its own file.

What comes of a document depends on what its own file gives and on nothing else.  The main statements
say when a document cannot be loaded and what is then reported: one failure, which is attributed to
the representation of the file.
-/

variable {files other : Files.FileSystem} {base : String} {representation : Representation}

/-- What the file of a representation gives: its text, or why there is none. -/
def found (files : Files.FileSystem) (base : String) (representation : Representation) :
    Except Files.ReadError String :=
  files.readText (path base representation)

/-- Text that is no document of the representation, and the reason that is given. -/
def Rejects : Representation → String → String → Prop
  | .xsd, text, reason => Xml.Element.ofText? text = none ∧ reason = malformedXml
  | _, text, reason => ∃ fault, Json.parse text = .error fault ∧ reason = fault.message

/-- The file of a representation gives no text, or text that is no document. -/
inductive CannotLoad (files : Files.FileSystem) (base : String)
    (representation : Representation) : Prop where
  | unread {error : Files.ReadError} (failed : found files base representation = .error error)
  | unparsed {text reason : String} (given : found files base representation = .ok text)
      (rejected : Rejects representation text reason)

/-- What is reported of a file that gives no text. -/
def readIssue (representation : Representation) (path : String) : Files.ReadError → SourceIssue
  | .notFound => .fileNotFound representation path
  | other => .io representation path other.message

theorem readText_eq :
    readText files base representation =
      (found files base representation).mapError
        (readIssue representation (path base representation)) := by
  simp only [readText, found]
  cases files.readText (path base representation) with
  | ok text => rfl
  | error error => cases error <;> rfl

theorem path_injective (base : String) : Function.Injective (path base) := by
  have relative (representation : Representation) :
      Files.isAbsolute representation.relativePath = false := by
    cases representation <;> decide +kernel
  intro representation other same
  have tail : representation.relativePath = other.relativePath := by
    simp only [path, Files.join, relative, Bool.false_eq_true, if_false] at same
    split at same
    · exact (String.append_right_inj _).mp same
    · exact (String.append_right_inj _).mp same
  cases representation <;> cases other <;> first | rfl | exact absurd tail (by decide)

/-- A change at the path of one representation does not show in what the others give. -/
theorem found_update_of_ne {changed : Representation} {entry : Files.Entry}
    (different : representation ≠ changed) :
    found (Function.update files (path base changed) entry) base representation =
      found files base representation := by
  unfold found Files.FileSystem.readText
  rw [Function.update_of_ne ((path_injective base).ne different)]

theorem readJson_congr (same : found files base representation = found other base representation) :
    readJson files base representation = readJson other base representation := by
  rw [readJson, readText_eq, same, ← readText_eq, readJson]

theorem readXsd_congr (same : found files base .xsd = found other base .xsd) :
    readXsd files base = readXsd other base := by
  rw [readXsd, readText_eq, same, ← readText_eq, readXsd]

theorem failureOf?_load_congr
    (same : found files base representation = found other base representation) :
    (load files base).failureOf? representation = (load other base).failureOf? representation := by
  cases representation
  · exact congrArg failure? (readJson_congr same)
  · exact congrArg failure? (readJson_congr same)
  · exact congrArg failure? (readJson_congr same)
  · exact congrArg failure? (readXsd_congr same)

theorem failure?_eq_some_iff {document : Except SourceIssue α} {issue : SourceIssue} :
    failure? document = some issue ↔ document = .error issue := by
  cases document <;> simp [failure?]

private theorem readJson_of_error {error : Files.ReadError}
    (unread : found files base representation = .error error) :
    readJson files base representation =
      .error (readIssue representation (path base representation) error) := by
  rw [readJson, readText_eq, unread]
  rfl

private theorem readJson_of_ok {text : String}
    (given : found files base representation = .ok text) :
    readJson files base representation = (Json.parse text).mapError fun fault =>
      .parseError representation (path base representation) fault.message := by
  rw [readJson, readText_eq, given]
  rfl

private theorem readJson_eq_error_iff {issue : SourceIssue} :
    readJson files base representation = .error issue ↔
      (∃ error, found files base representation = .error error ∧
        issue = readIssue representation (path base representation) error) ∨
      ∃ text reason, found files base representation = .ok text ∧
        (∃ fault, Json.parse text = .error fault ∧ reason = fault.message) ∧
        issue = .parseError representation (path base representation) reason := by
  cases given : found files base representation with
  | error error => simp [readJson_of_error given, eq_comm]
  | ok text =>
      rw [readJson_of_ok given]
      cases parsed : Json.parse text with
      | error fault =>
          change Except.error _ = Except.error issue ↔ _
          simp [parsed, eq_comm]
      | ok value =>
          change Except.ok value = Except.error issue ↔ _
          simp [parsed]

private theorem readXsd_of_error {error : Files.ReadError}
    (unread : found files base .xsd = .error error) :
    readXsd files base = .error (readIssue .xsd (path base .xsd) error) := by
  rw [readXsd, readText_eq, unread]
  rfl

private theorem readXsd_of_ok {text : String} (given : found files base .xsd = .ok text) :
    readXsd files base =
      match Xml.Element.ofText? text with
      | some root => .ok (.ofRoot root)
      | none => .error (.parseError .xsd (path base .xsd) malformedXml) := by
  rw [readXsd, readText_eq, given]
  rfl

private theorem readXsd_eq_error_iff {issue : SourceIssue} :
    readXsd files base = .error issue ↔
      (∃ error, found files base .xsd = .error error ∧
        issue = readIssue .xsd (path base .xsd) error) ∨
      ∃ text reason, found files base .xsd = .ok text ∧
        (Xml.Element.ofText? text = none ∧ reason = malformedXml) ∧
        issue = .parseError .xsd (path base .xsd) reason := by
  cases given : found files base .xsd with
  | error error => simp [readXsd_of_error given, eq_comm]
  | ok text =>
      rw [readXsd_of_ok given]
      cases parsed : Xml.Element.ofText? text <;> simp [parsed, eq_comm]

theorem isLoaded_eq_false_iff_exists {sources : Sources} :
    sources.isLoaded representation = false ↔
      ∃ issue, sources.failureOf? representation = some issue := by
  rw [isLoaded, Option.isNone_eq_false_iff, Option.isSome_iff_exists]

/-- What is reported of a document that could not be loaded: why its file gives no text, or why the
text is no document. -/
inductive FailsWith (files : Files.FileSystem) (base : String) (representation : Representation) :
    SourceIssue → Prop where
  | unread {error : Files.ReadError} (failed : found files base representation = .error error) :
      FailsWith files base representation
        (readIssue representation (path base representation) error)
  | unparsed {text reason : String} (given : found files base representation = .ok text)
      (rejected : Rejects representation text reason) :
      FailsWith files base representation
        (.parseError representation (path base representation) reason)

private theorem failureOf?_load_eq_some_iff {issue : SourceIssue} :
    (load files base).failureOf? representation = some issue ↔
      (∃ error, found files base representation = .error error ∧
        issue = readIssue representation (path base representation) error) ∨
      ∃ text reason, found files base representation = .ok text ∧
        Rejects representation text reason ∧
        issue = .parseError representation (path base representation) reason := by
  cases representation
  · exact failure?_eq_some_iff.trans readJson_eq_error_iff
  · exact failure?_eq_some_iff.trans readJson_eq_error_iff
  · exact failure?_eq_some_iff.trans readJson_eq_error_iff
  · exact failure?_eq_some_iff.trans readXsd_eq_error_iff

theorem failsWith_iff {issue : SourceIssue} :
    FailsWith files base representation issue ↔
      (load files base).failureOf? representation = some issue := by
  rw [failureOf?_load_eq_some_iff]
  constructor
  · intro failed
    cases failed with
    | unread failed => exact .inl ⟨_, failed, rfl⟩
    | unparsed given rejected => exact .inr ⟨_, _, given, rejected, rfl⟩
  · intro failed
    rcases failed with ⟨error, failed, rfl⟩ | ⟨text, reason, given, rejected, rfl⟩
    · exact .unread failed
    · exact .unparsed given rejected

/-- A failure is attributed to the representation of its file, and is no mere warning. -/
theorem attributed_of_failureOf?_load {issue : SourceIssue}
    (failed : (load files base).failureOf? representation = some issue) :
    issue.representation = representation ∧ issue.isWarning = false := by
  cases failsWith_iff.mpr failed with
  | @unread error _ => cases error <;> exact ⟨rfl, rfl⟩
  | unparsed _ _ => exact ⟨rfl, rfl⟩

theorem cannotLoad_iff_exists :
    CannotLoad files base representation ↔ ∃ issue, FailsWith files base representation issue := by
  constructor
  · intro fault
    cases fault with
    | unread failed => exact ⟨_, .unread failed⟩
    | unparsed given rejected => exact ⟨_, .unparsed given rejected⟩
  · intro failed
    obtain ⟨issue, failed⟩ := failed
    cases failed with
    | unread failed => exact .unread failed
    | unparsed given rejected => exact .unparsed given rejected

theorem isLoaded_load_eq_false_iff :
    (load files base).isLoaded representation = false ↔ CannotLoad files base representation := by
  rw [isLoaded_eq_false_iff_exists, cannotLoad_iff_exists]
  simp only [failsWith_iff]

/-- The failures answer the documents that could not be loaded one by one, in their order. -/
theorem failures_load_answer :
    List.Forall₂ (FailsWith files base)
      (Representation.all.filter fun representation => !(load files base).isLoaded representation)
      (load files base).failures := by
  apply Traversal.forall₂_filter_filterMap
  · intro representation failed
    rw [Bool.not_eq_true', isLoaded_eq_false_iff_exists] at failed
    obtain ⟨issue, found⟩ := failed
    exact ⟨issue, found, failsWith_iff.mpr found⟩
  · intro representation loaded
    rw [Bool.not_eq_false', isLoaded] at loaded
    exact Option.isNone_iff_eq_none.mp loaded

theorem readJson_eq_ok_iff {document : Json} :
    readJson files base representation = .ok document ↔
      ∃ text, found files base representation = .ok text ∧ Json.parse text = .ok document := by
  cases given : found files base representation with
  | error error => simp [readJson_of_error given]
  | ok text =>
      rw [readJson_of_ok given]
      cases parsed : Json.parse text with
      | error fault =>
          change Except.error _ = Except.ok document ↔ _
          simp [parsed]
      | ok value =>
          change Except.ok value = Except.ok document ↔ _
          simp [parsed]

theorem readXsd_eq_ok_iff {document : Xsd.Document} :
    readXsd files base = .ok document ↔
      ∃ text root, found files base .xsd = .ok text ∧ Xml.Element.ofText? text = some root ∧
        document = .ofRoot root := by
  cases given : found files base .xsd with
  | error error => simp [readXsd_of_error given]
  | ok text =>
      rw [readXsd_of_ok given]
      cases parsed : Xml.Element.ofText? text <;> simp [parsed, eq_comm]

theorem exists_readJson_iff {holds : Json → Prop} :
    (∃ document, readJson files base representation = .ok document ∧ holds document) ↔
      ∃ text document, found files base representation = .ok text ∧
        Json.parse text = .ok document ∧ holds document := by
  simp only [readJson_eq_ok_iff]
  constructor
  · intro loaded
    obtain ⟨document, ⟨text, given, parsed⟩, holds⟩ := loaded
    exact ⟨text, document, given, parsed, holds⟩
  · intro written
    obtain ⟨text, document, given, parsed, holds⟩ := written
    exact ⟨document, ⟨text, given, parsed⟩, holds⟩

theorem exists_readXsd_iff {holds : Xsd.Document → Prop} :
    (∃ document, readXsd files base = .ok document ∧ holds document) ↔
      ∃ text root, found files base .xsd = .ok text ∧ Xml.Element.ofText? text = some root ∧
        holds (.ofRoot root) := by
  simp only [readXsd_eq_ok_iff]
  constructor
  · intro loaded
    obtain ⟨_, ⟨text, root, given, parsed, rfl⟩, holds⟩ := loaded
    exact ⟨text, root, given, parsed, holds⟩
  · intro written
    obtain ⟨text, root, given, parsed, holds⟩ := written
    exact ⟨_, ⟨text, root, given, parsed, rfl⟩, holds⟩

end Sources

end Concord
