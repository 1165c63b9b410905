import Concord.Proofs.Comparison.Ledger
import Concord.Proofs.Lint.Blocks

namespace Concord.Lint

/-! A lint run and a comparison of the same files, on what could be loaded.

The comparison keeps a flag and a failure for each document, the lint run a block of findings.  No
check of a loaded document can pass for a failure to load it, since the block of a loaded document
begins with a remark and not with an error.  So the flag can be read off the block, and the failure
too; the main statement says how.
-/

variable {sources : Sources} {representation : Representation}

theorem isLoaded_eq_false_iff_single_error :
    sources.isLoaded representation = false ↔
      ∃ finding, blockOf sources representation = [finding] ∧ finding.severity = .error := by
  constructor
  · intro unloaded
    obtain ⟨issue, failed⟩ := Sources.isLoaded_eq_false_iff_exists.mp unloaded
    exact ⟨_, blockOf_of_failure failed, rfl⟩
  · intro alone
    obtain ⟨finding, single, severe⟩ := alone
    rw [Sources.isLoaded_eq_false_iff_exists]
    cases failed : sources.failureOf? representation with
    | some issue => exact ⟨issue, rfl⟩
    | none =>
        obtain ⟨text, rest, begins⟩ := exists_blockOf_eq_cons failed
        obtain ⟨rfl, _⟩ := List.cons.inj (begins.symm.trans single)
        cases severe

theorem isLoaded_eq_true_iff_begins_with_info :
    sources.isLoaded representation = true ↔
      ∃ finding rest, blockOf sources representation = finding :: rest ∧
        finding.severity = .info := by
  constructor
  · intro loaded
    obtain ⟨text, rest, begins⟩ := exists_blockOf_eq_cons (Option.isNone_iff_eq_none.mp loaded)
    exact ⟨_, rest, begins, rfl⟩
  · intro begun
    obtain ⟨finding, rest, begins, mild⟩ := begun
    rw [← Bool.not_eq_false, isLoaded_eq_false_iff_single_error]
    intro alone
    obtain ⟨other, single, severe⟩ := alone
    obtain ⟨rfl, _⟩ := List.cons.inj (begins.symm.trans single)
    rw [mild] at severe
    cases severe

theorem failureOf?_eq_none_of_passed {files : Files.FileSystem} {base : String}
    (passed : (run files base).passed = true) (representation : Representation) :
    (Sources.load files base).failureOf? representation = none := by
  rw [passed_iff_forall, findings_run, List.forall_mem_flatMap] at passed
  cases failed : (Sources.load files base).failureOf? representation with
  | none => rfl
  | some issue =>
      have severe := passed representation representation.mem_all
        ⟨representation, .error, issue.message⟩
        (by rw [blockOf_of_failure failed]; exact List.mem_singleton_self _)
      exact absurd rfl severe

/-- For every representation, a comparison has the flag down if and only if the lint run has a single
finding on its file, and that an error; the error then says what the failure says that the comparison
attributes to the representation.  The flag is up if and only if the findings on the file begin with
a mere remark.  If the lint run passes, the comparison has no failures. -/
theorem findings_tell_what_comparison_loads (options : Comparison.Options)
    (files : Files.FileSystem) (base : String) :
    let comparison := Comparison.run options files base
    let report := run files base
    (∀ representation,
      (comparison.loaded.lookup representation = some false ↔
        ∃ finding, report.forFile representation = [finding] ∧ finding.severity = .error) ∧
      (comparison.loaded.lookup representation = some false →
        ∃ issue,
          comparison.issues.filter
            (fun issue => issue.representation = representation && !issue.isWarning) = [issue] ∧
          report.forFile representation = [⟨representation, .error, issue.message⟩]) ∧
      (comparison.loaded.lookup representation = some true ↔
        ∃ finding rest, report.forFile representation = finding :: rest ∧
          finding.severity = .info)) ∧
    (report.passed = true → comparison.failures = []) := by
  intro comparison report
  refine ⟨fun representation => ?_, fun passed => ?_⟩
  · rw [Comparison.lookup_loaded_run, Option.some.injEq, Option.some.injEq, forFile_run]
    refine ⟨isLoaded_eq_false_iff_single_error, fun unloaded => ?_,
      isLoaded_eq_true_iff_begins_with_info⟩
    obtain ⟨issue, failed⟩ := Sources.isLoaded_eq_false_iff_exists.mp unloaded
    refine ⟨issue, ?_, blockOf_of_failure failed⟩
    have attributed :
        comparison.failures.filter (fun issue => issue.representation = representation) =
          ((Sources.load files base).failureOf? representation).toList :=
      Comparison.failures_filter_run
    rw [Comparison.failures, List.filter_filter, failed] at attributed
    exact attributed
  · rw [Comparison.failures_run, Sources.failures, List.filterMap_eq_nil_iff]
    exact fun representation _ => failureOf?_eq_none_of_passed passed representation

end Concord.Lint
