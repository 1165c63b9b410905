import Concord.Lint.Checks
import Concord.Proofs.Lint.Checks
import Concord.Proofs.Sources

namespace Concord.Lint

/-! Which documents a lint run accepts.

A run passes if none of its findings is an error.  The main statement says what this asks of the four
files; all else in them can only be warned of.
-/

theorem passed_iff_forall {report : Report} :
    report.passed = true ↔ ∀ finding ∈ report.findings, finding.severity ≠ .error := by
  rw [Report.passed, Report.count, Report.withSeverity, decide_eq_true_eq,
    List.length_eq_zero_iff, List.filter_eq_nil_iff]
  simp only [decide_eq_true_eq, ne_eq]

/-- A block without errors is that of a document that was loaded and passed its checks. -/
theorem noError_block_iff {α : Type} {file : Representation} {format : String}
    {document : Except SourceIssue α} {check : α → List Remark} :
    (∀ finding ∈ block file format document check, finding.severity ≠ .error) ↔
      ∃ loaded, document = .ok loaded ∧ NoError (check loaded) := by
  cases document with
  | error issue => simp [block]
  | ok loaded =>
      simp only [block, Except.ok.injEq, exists_eq_left']
      rw [List.forall_mem_map]
      change NoError (_ :: check loaded) ↔ _
      simp

theorem passed_run_iff {files : Files.FileSystem} {base : String} :
    (run files base).passed = true ↔
      (∃ schema, Sources.readJson files base .jsonSchema = .ok schema ∧
        NoError (checkSchema schema)) ∧
      (∃ context, Sources.readJson files base .jsonLdContext = .ok context ∧
        NoError (checkContext context)) ∧
      (∃ metaSchema, Sources.readJson files base .metaSchema = .ok metaSchema ∧
        NoError (checkMetaSchema metaSchema)) ∧
      ∃ document, Sources.readXsd files base = .ok document ∧ NoError (checkXsd document) := by
  rw [passed_iff_forall, run, ofSources]
  simp only [List.forall_mem_append, noError_block_iff, and_assoc]
  rfl

/-- A run passes if and only if
* the schema is an object with its required members, and what it gives as the pattern of a date, if
  anything, is a pattern;
* the context is a reference, an object or a list;
* the meta-schema is an object with its required members;
* the root of the XSD is the one that every XML Schema has;
and each of these can be read and is a document of its format. -/
theorem run_passes_iff_acceptable (files : Files.FileSystem) (base : String) :
    (run files base).passed = true ↔
      (∃ text schema, Sources.found files base .jsonSchema = .ok text ∧
        Json.parse text = .ok schema ∧ HasMembers ["$schema", "$id", "properties"] schema ∧
        ∀ pattern, HasDatePattern schema pattern → Regex.isPattern pattern = true) ∧
      (∃ text document context, Sources.found files base .jsonLdContext = .ok text ∧
        Json.parse text = .ok document ∧ document.get? "@context" = some context ∧
        IsContext context) ∧
      (∃ text metaSchema, Sources.found files base .metaSchema = .ok text ∧
        Json.parse text = .ok metaSchema ∧
        HasMembers ["$schema", "$id", "properties"] metaSchema) ∧
      ∃ text root, Sources.found files base .xsd = .ok text ∧
        Xml.Element.ofText? text = some root ∧
        root.name = ⟨some "http://www.w3.org/2001/XMLSchema", "schema"⟩ := by
  simp only [passed_run_iff, Sources.exists_readJson_iff, Sources.exists_readXsd_iff,
    noError_checkSchema_iff, noError_checkContext_iff, noError_checkMetaSchema_iff,
    noError_checkXsd_iff, exists_and_left]
  rfl

end Concord.Lint
