import Concord.Proofs.Comparison.Isolation
import Concord.Proofs.Xsd.Fields

namespace Concord.Comparison

/-! The issues of a comparison, accounted for.

Failures of documents and warnings about types end up in one list, and warnings are attributed to the
same representation as the failure of an XSD.  The main statement says what the list holds and in
which order, and that the flags of a comparison can be read off it.
-/

variable {options : Options} {files : Files.FileSystem} {base : String}
  {representation : Representation}

theorem issues_run :
    (run options files base).issues =
      (Sources.load files base).failures ++ gaps options (.load files base) := rfl

theorem isWarning_of_mem_gaps {sources : Sources} {issue : SourceIssue}
    (member : issue ∈ gaps options sources) : issue.isWarning = true := by
  obtain ⟨_, _, rfl⟩ := exists_of_mem_gaps member
  rfl

theorem isWarning_of_mem_failures {issue : SourceIssue}
    (member : issue ∈ (Sources.load files base).failures) : issue.isWarning = false := by
  obtain ⟨_, _, failed⟩ := List.mem_filterMap.mp member
  exact (Sources.attributed_of_failureOf?_load failed).2

/-- Whatever is no warning comes from loading. -/
theorem failures_run : (run options files base).failures = (Sources.load files base).failures := by
  rw [failures, issues_run, List.filter_append]
  have kept : (Sources.load files base).failures.filter (fun issue => !issue.isWarning) =
      (Sources.load files base).failures := by
    apply List.filter_eq_self.mpr
    intro issue member
    rw [isWarning_of_mem_failures member, Bool.not_false]
  have dropped : (gaps options (.load files base)).filter (fun issue => !issue.isWarning) = [] := by
    apply List.filter_eq_nil_iff.mpr
    intro issue member
    rw [isWarning_of_mem_gaps member, Bool.not_true]
    exact Bool.false_ne_true
  rw [kept, dropped, List.append_nil]

theorem failures_filter_run :
    (run options files base).failures.filter (fun issue => issue.representation = representation) =
      ((Sources.load files base).failureOf? representation).toList := by
  rw [failures_run, filter_failures_load]

theorem lookup_loaded_eq_false_iff :
    (run options files base).loaded.lookup representation = some false ↔
      Sources.CannotLoad files base representation := by
  rw [lookup_loaded_run, Option.some.injEq, Sources.isLoaded_load_eq_false_iff]

theorem lookup_loaded_eq_false_iff_exists_failure :
    (run options files base).loaded.lookup representation = some false ↔
      ∃ issue ∈ (run options files base).issues,
        issue.representation = representation ∧ issue.isWarning = false := by
  have listed : (∃ issue ∈ (run options files base).issues,
      issue.representation = representation ∧ issue.isWarning = false) ↔
      ∃ issue, issue ∈ (run options files base).failures.filter
        fun issue => issue.representation = representation := by
    simp only [failures, List.mem_filter, decide_eq_true_eq, Bool.not_eq_true', and_assoc,
      and_comm (a := SourceIssue.isWarning _ = false)]
  rw [listed, failures_filter_run, lookup_loaded_run, Option.some.injEq,
    Sources.isLoaded_eq_false_iff_exists]
  simp only [Option.mem_toList]

/-- Warnings are about the types of an XSD that was loaded. -/
theorem gaps_answer_unplaced :
    (∀ text root, Sources.found files base .xsd = .ok text →
      Xml.Element.ofText? text = some root →
      List.Forall₂ Xsd.AccountsFor
        ((Xsd.Document.ofRoot root).complexTypes.filter (Xsd.isUnplaced options.sections))
        (gaps options (.load files base))) ∧
    (Sources.CannotLoad files base .xsd → gaps options (.load files base) = []) := by
  constructor
  · intro text root given parsed
    have loaded : (Sources.load files base).xsd = .ok (.ofRoot root) :=
      Sources.readXsd_eq_ok_iff.mpr ⟨text, root, given, parsed, rfl⟩
    rw [gaps, loaded]
    exact Xsd.mappingGaps_account_for_unplaced _ _
  · intro fault
    obtain ⟨issue, failed⟩ := Sources.isLoaded_eq_false_iff_exists.mp
      (Sources.isLoaded_load_eq_false_iff.mpr fault)
    rw [gaps, Sources.failure?_eq_some_iff.mp failed]
    rfl

theorem total_eq_zero_of_not_loaded
    (failed : (run options files base).loaded.lookup representation = some false) :
    (run options files base).summary.total representation = 0 := by
  rw [lookup_loaded_run, Option.some.injEq] at failed
  have total : (run options files base).summary.total representation =
      (run options files base).inventories.total representation := by
    cases representation <;> rfl
  rw [total]
  exact Inventories.total_eq_zero_of_isEmpty (isEmpty_inventory_of_not_loaded failed)

theorem length_failures_run :
    (run options files base).failures.length =
      ((run options files base).loaded.filter fun entry => !entry.2).length := by
  rw [failures_run, ← Sources.failures_load_answer.length_eq, loaded_run, List.filter_map,
    List.length_map]
  rfl

/-- The issues of a comparison are one failure for each document that could not be loaded, in the
order of representations, and then one warning for each type of the XSD that has no place, in
document order.  There is a flag for each representation, which is down if its document could not
be loaded, and that is if a failure is attributed to it; then there is one such failure, and the
representation counts nothing.  Failures are as many as flags that are down, and warnings stand
only beside an XSD whose flag is up. -/
theorem issues_account_for_flags (options : Options) (files : Files.FileSystem) (base : String) :
    let comparison := run options files base
    (∃ (failed : List Representation) (failures gaps : List SourceIssue),
      comparison.issues = failures ++ gaps ∧
      failed.Sublist Representation.all ∧
      (∀ representation, representation ∈ failed ↔
        Sources.CannotLoad files base representation) ∧
      List.Forall₂ (Sources.FailsWith files base) failed failures ∧
      (∀ text root, Sources.found files base .xsd = .ok text →
        Xml.Element.ofText? text = some root →
        List.Forall₂ Xsd.AccountsFor
          ((Xsd.Document.ofRoot root).complexTypes.filter (Xsd.isUnplaced options.sections))
          gaps) ∧
      (Sources.CannotLoad files base .xsd → gaps = [])) ∧
    comparison.loaded.map (·.1) = Representation.all ∧
    (∀ representation,
      (comparison.loaded.lookup representation = some false ↔
        Sources.CannotLoad files base representation) ∧
      (comparison.loaded.lookup representation = some false ↔
        ∃ issue ∈ comparison.issues,
          issue.representation = representation ∧ issue.isWarning = false) ∧
      (comparison.loaded.lookup representation = some false →
        (∃ issue, Sources.FailsWith files base representation issue ∧
          comparison.failures.filter (·.representation = representation) = [issue]) ∧
        comparison.summary.total representation = 0)) ∧
    comparison.failures.length = (comparison.loaded.filter fun entry => !entry.2).length ∧
    (∀ issue ∈ comparison.issues, issue.isWarning = true →
      comparison.loaded.lookup .xsd = some true) := by
  intro comparison
  refine ⟨⟨Representation.all.filter fun representation =>
      !(Sources.load files base).isLoaded representation, (Sources.load files base).failures,
      gaps options (.load files base), issues_run, List.filter_sublist, fun representation => ?_,
      Sources.failures_load_answer, gaps_answer_unplaced.1, gaps_answer_unplaced.2⟩, rfl,
    fun representation => ⟨lookup_loaded_eq_false_iff, lookup_loaded_eq_false_iff_exists_failure,
      fun down => ⟨?_, total_eq_zero_of_not_loaded down⟩⟩,
    length_failures_run, fun issue member warns => ?_⟩
  · rw [List.mem_filter, Bool.not_eq_true', Sources.isLoaded_load_eq_false_iff]
    exact and_iff_right (by cases representation <;> decide)
  · rw [lookup_loaded_run, Option.some.injEq, Sources.isLoaded_eq_false_iff_exists] at down
    obtain ⟨issue, failed⟩ := down
    exact ⟨issue, Sources.failsWith_iff.mpr failed, by rw [failures_filter_run, failed]; rfl⟩
  · rcases List.mem_append.mp (issues_run ▸ member) with failure | gap
    · rw [isWarning_of_mem_failures failure] at warns
      cases warns
    · rw [lookup_loaded_run, Option.some.injEq, ← Bool.not_eq_false,
        Sources.isLoaded_load_eq_false_iff]
      intro fault
      rw [gaps_answer_unplaced.2 fault] at gap
      cases gap

end Concord.Comparison
