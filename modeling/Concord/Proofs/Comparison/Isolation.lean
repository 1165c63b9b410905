import Concord.Comparison
import Concord.Proofs.Inventories
import Concord.Proofs.Sources

namespace Concord

/-! What comes of one representation in a comparison does not depend on the files of the others.

Each representation contributes an inventory, a flag that says whether it was loaded, and the issues
that are attributed to it.  The lemmas read these three off the file of the representation; the main
statement compares two runs over files that differ for one representation only.
-/

namespace Comparison

variable {options : Options} {files other : Files.FileSystem} {base : String}
  {representation : Representation}

/-- The issues that are attributed to a representation, in their order. -/
def issuesOf (comparison : Comparison) (representation : Representation) : List SourceIssue :=
  comparison.issues.filter fun issue => issue.representation = representation

theorem exists_of_mem_gaps {sources : Sources} {issue : SourceIssue}
    (member : issue ∈ gaps options sources) :
    ∃ typeName skipped, issue = .mappingGap typeName skipped := by
  unfold gaps declared at member
  split at member
  · obtain ⟨⟨name, type⟩, _, made⟩ := List.mem_filterMap.mp member
    cases mapped : options.sections.place? name with
    | some place => simp [mapped] at made
    | none =>
        simp only [mapped, Option.some.injEq] at made
        exact ⟨_, _, made.symm⟩
  · cases member

theorem representation_of_mem_gaps {sources : Sources} {issue : SourceIssue}
    (member : issue ∈ gaps options sources) : issue.representation = .xsd := by
  obtain ⟨_, _, rfl⟩ := exists_of_mem_gaps member
  rfl

theorem filter_failures_load :
    (Sources.load files base).failures.filter (fun issue => issue.representation = representation) =
      ((Sources.load files base).failureOf? representation).toList := by
  rw [Sources.failures, List.filterMap_eq_flatMap_toList]
  apply Representation.filter_flatMap_all
  intro owner issue member
  exact (Sources.attributed_of_failureOf?_load (Option.mem_toList.mp member)).1

theorem issuesOf_run :
    (run options files base).issuesOf representation =
      ((Sources.load files base).failureOf? representation).toList ++
        if representation = .xsd then gaps options (.load files base) else [] := by
  have warnings : (gaps options (.load files base)).filter
      (fun issue => issue.representation = representation) =
      if representation = .xsd then gaps options (.load files base) else [] := by
    split
    · rename_i here
      apply List.filter_eq_self.mpr
      intro issue member
      simp [here, representation_of_mem_gaps member]
    · rename_i elsewhere
      apply List.filter_eq_nil_iff.mpr
      intro issue member
      simp [representation_of_mem_gaps member, Ne.symm elsewhere]
  have all : (run options files base).issues =
      (Sources.load files base).failures ++ gaps options (.load files base) := rfl
  rw [issuesOf, all, List.filter_append, filter_failures_load, warnings]

theorem any_failures_load :
    ((Sources.load files base).failures.any fun issue =>
        issue.representation = representation && !issue.isWarning) =
      !(Sources.load files base).isLoaded representation := by
  rw [← List.any_filter, filter_failures_load, Sources.isLoaded]
  cases failed : (Sources.load files base).failureOf? representation with
  | none => rfl
  | some issue => simp [(Sources.attributed_of_failureOf?_load failed).2]

/-- The flags are read off the failures, which tell of every document that could not be loaded. -/
theorem loaded_run :
    (run options files base).loaded =
      Representation.all.map fun representation =>
        (representation, (Sources.load files base).isLoaded representation) := by
  have flags : (run options files base).loaded = flagsOf (Sources.load files base).failures := rfl
  rw [flags, flagsOf]
  simp only [any_failures_load, Bool.not_not]

theorem lookup_loaded_run :
    (run options files base).loaded.lookup representation =
      some ((Sources.load files base).isLoaded representation) := by
  rw [loaded_run]
  cases representation <;> rfl

theorem inventory_run_congr
    (same : Sources.found files base representation = Sources.found other base representation) :
    (run options files base).inventories.of representation =
      (run options other base).inventories.of representation := by
  cases representation with
  | xsd =>
      simp only [run, ofSources, inventoriesOf, Inventories.of, Sources.load,
        Sources.readXsd_congr same]
  | _ =>
      simp only [run, ofSources, inventoriesOf, Inventories.of, Sources.load,
        Sources.readJson_congr same]

theorem isEmpty_declared_of_failed {α : Type u} {β : Type v} [Keyed β]
    {document : Except SourceIssue α} {extract : α → SortedSet β}
    (failed : (Sources.failure? document).isNone = false) :
    (declared document extract).isEmpty = true := by
  cases document with
  | ok document => cases failed
  | error issue => rfl

theorem isEmpty_inventory_of_not_loaded
    (failed : (Sources.load files base).isLoaded representation = false) :
    ((run options files base).inventories.of representation).isEmpty = true := by
  cases representation <;> exact isEmpty_declared_of_failed failed

theorem issuesOf_run_congr
    (same : Sources.found files base representation = Sources.found other base representation) :
    (run options files base).issuesOf representation =
      (run options other base).issuesOf representation := by
  rw [issuesOf_run, issuesOf_run, Sources.failureOf?_load_congr same]
  congr 1
  split
  · rename_i here
    subst here
    simp only [gaps, Sources.load, Sources.readXsd_congr same]
  · rfl

/-- Two runs over files that give the same for all representations but one agree on what comes of
the others: their inventories, whether they were loaded, and the issues attributed to them.  If the
one cannot be loaded, it declares nothing, and the matrix is that of the other inventories alone. -/
theorem run_isolates_representations {broken : Representation}
    (agree : ∀ representation, representation ≠ broken →
      Sources.found files base representation = Sources.found other base representation) :
    let comparison := run options files base
    let reference := run options other base
    (∀ representation, representation ≠ broken →
      comparison.inventories.of representation = reference.inventories.of representation ∧
      comparison.loaded.lookup representation = reference.loaded.lookup representation ∧
      comparison.issuesOf representation = reference.issuesOf representation) ∧
    (Sources.CannotLoad files base broken →
      (comparison.inventories.of broken).isEmpty = true ∧
      comparison.loaded.lookup broken = some false ∧
      comparison.matrix = .ofInventories (reference.inventories.without broken)) := by
  intro comparison reference
  refine ⟨fun representation different => ?_, fun fault => ?_⟩
  · have same := agree representation different
    refine ⟨inventory_run_congr same, ?_, issuesOf_run_congr same⟩
    rw [lookup_loaded_run, lookup_loaded_run, Sources.isLoaded, Sources.failureOf?_load_congr same,
      Sources.isLoaded]
  · have failed := Sources.isLoaded_load_eq_false_iff.mpr fault
    have empty : (comparison.inventories.of broken).isEmpty = true :=
      isEmpty_inventory_of_not_loaded failed
    refine ⟨empty, ?_, ?_⟩
    · rw [lookup_loaded_run, failed]
    · have others : comparison.inventories = reference.inventories.without broken :=
        Inventories.eq_without
          (fun representation different => inventory_run_congr (agree representation different))
          empty
      exact congrArg Drift.PresenceMatrix.ofInventories others

/-- A directory with a schema, a context and an XSD that may not be read, and no meta-schema. -/
def filesWithContext (context : String) : Files.FileSystem :=
  .ofEntries [
    ("v1/schema.json", .file ("\x7b\"properties\": \x7b\"meta\": " ++
      "\x7b\"properties\": \x7b\"url\": 1\x7d\x7d\x7d\x7d").toUTF8),
    ("v1/context.jsonld", .file context.toUTF8),
    ("v1/xml/1.0/schema-resume.xsd", .unreadable "Permission denied (os error 13)")]

theorem broken_context_is_isolated :
    let broken := filesWithContext "\x7b broken"
    let sound := filesWithContext "\x7b\"@context\": \x7b\"url\": 1\x7d\x7d"
    let comparison := run .standard broken "v1"
    let reference := run .standard sound "v1"
    ((∀ representation, representation ≠ .jsonLdContext →
        Sources.found broken "v1" representation = Sources.found sound "v1" representation) ∧
      Sources.CannotLoad broken "v1" .jsonLdContext) ∧
    comparison.inventories.jsonSchema = reference.inventories.jsonSchema ∧
    comparison.issuesOf .xsd = reference.issuesOf .xsd ∧
    comparison.matrix = .ofInventories (reference.inventories.without .jsonLdContext) := by
  intro broken sound comparison reference
  have agree (representation : Representation) (different : representation ≠ .jsonLdContext) :
      Sources.found broken "v1" representation = Sources.found sound "v1" representation := by
    cases representation with
    | jsonLdContext => exact absurd rfl different
    | _ => decide +kernel
  have fault : Sources.CannotLoad broken "v1" .jsonLdContext := by
    have unread : (Json.parse "\x7b broken").toOption.isNone = true := by decide +kernel
    have given : Sources.found broken "v1" .jsonLdContext = .ok "\x7b broken" := by decide +kernel
    cases parsed : Json.parse "\x7b broken" with
    | ok value => simp [parsed, Except.toOption] at unread
    | error error => exact .unparsed given ⟨error, parsed, rfl⟩
  obtain ⟨others, isolated⟩ :=
    @run_isolates_representations .standard broken sound "v1" .jsonLdContext agree
  exact ⟨⟨agree, fault⟩, Inventory.paths.inj (others .jsonSchema (by decide)).1,
    (others .xsd (by decide)).2.2, (isolated fault).2.2⟩

end Comparison

end Concord
