import Concord.Proofs.Lint.Acceptance
import Mathlib.Logic.Function.Basic

namespace Concord.Lint

/-! The findings of a run, file by file.

Every file has a block of its own in the report.  A block begins with what came of loading the file:
an error, and then there is nothing else in it, or a remark that the file could be read.  The main
statement says that a report is these blocks one after the other and that each of them depends on
its own file only.
-/

variable {files other : Files.FileSystem} {base : String} {representation : Representation}

section Block

variable {α : Type} {file : Representation} {format : String} {document : Except SourceIssue α}
  {check : α → List Remark}

theorem block_of_failure {issue : SourceIssue} (failed : Sources.failure? document = some issue) :
    block file format document check = [⟨file, .error, issue.message⟩] := by
  rw [Sources.failure?_eq_some_iff.mp failed, block]

theorem exists_block_eq_cons (loaded : Sources.failure? document = none) :
    ∃ text rest, block file format document check = ⟨file, .info, text⟩ :: rest := by
  cases document with
  | error issue => cases loaded
  | ok document => exact ⟨_, _, rfl⟩

theorem file_of_mem_block {finding : Finding}
    (member : finding ∈ block file format document check) : finding.file = file := by
  cases document with
  | error issue =>
      rw [block, List.mem_singleton] at member
      rw [member]
  | ok document =>
      obtain ⟨remark, _, rfl⟩ := List.mem_map.mp member
      rfl

end Block

/-- The findings on the document of one representation. -/
def blockOf (sources : Sources) : Representation → List Finding
  | .jsonSchema => block .jsonSchema "JSON" sources.jsonSchema checkSchema
  | .jsonLdContext => block .jsonLdContext "JSON" sources.context checkContext
  | .metaSchema => block .metaSchema "JSON" sources.metaSchema checkMetaSchema
  | .xsd => block .xsd "XML" sources.xsd checkXsd

variable {sources : Sources}

theorem file_of_mem_blockOf {finding : Finding}
    (member : finding ∈ blockOf sources representation) : finding.file = representation := by
  cases representation <;> exact file_of_mem_block member

theorem blockOf_of_failure {issue : SourceIssue}
    (failed : sources.failureOf? representation = some issue) :
    blockOf sources representation = [⟨representation, .error, issue.message⟩] := by
  cases representation <;> exact block_of_failure failed

theorem exists_blockOf_eq_cons (loaded : sources.failureOf? representation = none) :
    ∃ text rest, blockOf sources representation = ⟨representation, .info, text⟩ :: rest := by
  cases representation <;> exact exists_block_eq_cons loaded

theorem blockOf_ne_nil : blockOf sources representation ≠ [] := by
  cases failed : sources.failureOf? representation with
  | some issue =>
      rw [blockOf_of_failure failed]
      exact List.cons_ne_nil _ _
  | none =>
      obtain ⟨text, rest, begins⟩ := exists_blockOf_eq_cons failed
      rw [begins]
      exact List.cons_ne_nil _ _

theorem blockOf_load_congr
    (same : Sources.found files base representation = Sources.found other base representation) :
    blockOf (.load files base) representation = blockOf (.load other base) representation := by
  cases representation
  · exact congrArg (block .jsonSchema "JSON" · checkSchema) (Sources.readJson_congr same)
  · exact congrArg (block .jsonLdContext "JSON" · checkContext) (Sources.readJson_congr same)
  · exact congrArg (block .metaSchema "JSON" · checkMetaSchema) (Sources.readJson_congr same)
  · exact congrArg (block .xsd "XML" · checkXsd) (Sources.readXsd_congr same)

theorem findings_run :
    (run files base).findings = Representation.all.flatMap (blockOf (.load files base)) := by
  simp [run, ofSources, blockOf, Representation.all]

theorem forFile_run :
    (run files base).forFile representation = blockOf (.load files base) representation := by
  rw [Report.forFile, findings_run]
  exact Representation.filter_flatMap_all (fun _ _ => file_of_mem_blockOf) representation

/-- The findings of a run are four blocks, in the order of representations, none of them empty and
each about its own file.  What stands in a block depends on what the file gives and on nothing else,
so a change to one file leaves the blocks of the other three as they are.  A file that cannot be
loaded has a block of a single error, and the run passes if no block has one. -/
theorem findings_are_independent_blocks (files : Files.FileSystem) (base : String) :
    ∃ block : Representation → List Finding,
      (run files base).findings =
        block .jsonSchema ++ block .jsonLdContext ++ block .metaSchema ++ block .xsd ∧
      (∀ representation,
        block representation ≠ [] ∧
        (∀ finding ∈ block representation, finding.file = representation) ∧
        (run files base).forFile representation = block representation ∧
        (∀ other, Sources.found other base representation = Sources.found files base representation →
          (run other base).forFile representation = block representation) ∧
        (Sources.CannotLoad files base representation →
          ∃ finding, block representation = [finding] ∧ finding.severity = .error)) ∧
      (∀ changed entry representation, representation ≠ changed →
        (run (Function.update files (Sources.path base changed) entry) base).forFile
          representation = block representation) ∧
      ((run files base).passed = true ↔
        ∀ representation, ∀ finding ∈ block representation, finding.severity ≠ .error) := by
  have unchanged (other : Files.FileSystem) (representation : Representation)
      (same : Sources.found other base representation = Sources.found files base representation) :
      (run other base).forFile representation = blockOf (.load files base) representation := by
    rw [forFile_run, blockOf_load_congr same]
  refine ⟨blockOf (.load files base), ?_, fun representation => ⟨blockOf_ne_nil,
    fun _ => file_of_mem_blockOf, forFile_run, fun other => unchanged other representation,
    fun fault => ?_⟩, fun changed entry representation different => ?_, ?_⟩
  · rw [findings_run]
    simp [Representation.all]
  · obtain ⟨issue, failed⟩ := Sources.isLoaded_eq_false_iff_exists.mp
      (Sources.isLoaded_load_eq_false_iff.mpr fault)
    exact ⟨_, blockOf_of_failure failed, rfl⟩
  · exact unchanged _ representation (Sources.found_update_of_ne different)
  · rw [passed_iff_forall, findings_run, List.forall_mem_flatMap]
    exact forall_congr' fun representation => by simp [Representation.mem_all representation]

end Concord.Lint
