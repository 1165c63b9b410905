import Concord.CommandLine.Outcome
import Concord.Proofs.Lint.Acceptance
import Concord.Proofs.Xsd.Layers

namespace Concord

/-! When a command fails, and what it prints then.

A comparison fails only for its configuration, a validation only for its schema, and a lint run
never.  What is wrong with the files that a command is about is part of its report.
-/

namespace Comparison.Options

theorem exists_ofConfig_iff {config : Config} :
    (∃ options, ofConfig config = .ok options) ↔
      ∀ entry ∈ config.typeSections.entries, Xsd.Section.IsWritten entry.2 := by
  rw [← Xsd.TypeSections.exists_standardWith_iff]
  constructor
  · intro given
    obtain ⟨_, given⟩ := given
    obtain ⟨sections, layered, _⟩ := Traversal.bind_eq_ok_iff.mp given
    exact ⟨sections, layered⟩
  · intro layered
    obtain ⟨sections, layered⟩ := layered
    exact ⟨_, Traversal.bind_eq_ok_iff.mpr ⟨sections, layered, rfl⟩⟩

end Comparison.Options

namespace Config

variable {files : Files.FileSystem} {path : String}

theorem load_eq_ok_iff {config : Config} :
    load files path = .ok config ↔
      ∃ text, files.readText path = .ok text ∧ ofText? text = some config := by
  unfold load
  cases files.readText path with
  | error fault => simp
  | ok text => cases understood : ofText? text <;> simp [understood]

/-- A configuration that cannot be used: its file cannot be read, it is none, or it gives a type a
section that cannot be. -/
inductive Fails (files : Files.FileSystem) (path : String) : Prop where
  | unread {error : Files.ReadError} (refused : files.readText path = .error error)
  | malformed {text : String} (found : files.readText path = .ok text)
      (senseless : ofText? text = none)
  | misplaced {text : String} {config : Config} {entry : String × String}
      (found : files.readText path = .ok text) (understood : ofText? text = some config)
      (listed : entry ∈ config.typeSections.entries) (unwritten : ¬ Xsd.Section.IsWritten entry.2)

theorem not_fails_iff :
    ¬ Fails files path ↔
      ∃ config, load files path = .ok config ∧
        ∀ entry ∈ config.typeSections.entries, Xsd.Section.IsWritten entry.2 := by
  constructor
  · intro usable
    cases found : files.readText path with
    | error error => exact absurd (.unread found) usable
    | ok text =>
        cases understood : ofText? text with
        | none => exact absurd (.malformed found understood) usable
        | some config =>
            refine ⟨config, load_eq_ok_iff.mpr ⟨text, found, understood⟩, fun entry listed => ?_⟩
            by_contra unwritten
            exact usable (.misplaced found understood listed unwritten)
  · intro usable fails
    obtain ⟨config, loaded, written⟩ := usable
    obtain ⟨text, found, understood⟩ := load_eq_ok_iff.mp loaded
    cases fails with
    | unread refused => cases found.symm.trans refused
    | malformed foundAgain senseless =>
        cases found.symm.trans foundAgain
        cases understood.symm.trans senseless
    | misplaced foundAgain understoodAgain listed unwritten =>
        cases found.symm.trans foundAgain
        cases understood.symm.trans understoodAgain
        exact unwritten (written _ listed)

end Config

namespace Validation

variable {files : Files.FileSystem} {validator : Validator} {path : String}

/-- The result for a file of which all that is known is what stands at its path. -/
def FileResult.ofEntry (validator : Validator) (path : String) (entry : Files.Entry) : FileResult :=
  .of validator (fun _ => entry) path

theorem FileResult.of_eq_ofEntry :
    FileResult.of validator files path = .ofEntry validator path (files path) := rfl

/-- A document that is read and has nothing in it that the schema does not allow. -/
def Passes (validator : Validator) (files : Files.FileSystem) (path : String) : Prop :=
  ∃ document, readDocument files path = .ok document ∧ validator.violations document = []

theorem FileResult.valid_of_iff :
    (FileResult.of validator files path).valid = true ↔ Passes validator files path := by
  unfold FileResult.of FileResult.valid Validator.checkFile Passes
  cases readDocument files path with
  | error failure => simp [Except.mapError, bind, Except.bind]
  | ok document =>
      simp [Except.mapError, bind, Except.bind, pure, Except.pure, Validator.findings]

end Validation

namespace CommandLine

variable {files : Files.FileSystem} {baseDir : String} {config? : Option String} {json : Bool}

namespace Outcome

variable {outcome : Outcome}

theorem exitCode_ok (printed : Printed) :
    exitCode (.ok printed) = if printed.passed = true then 0 else 1 := rfl

theorem exitCode_ok_eq_zero_iff {printed : Printed} :
    exitCode (.ok printed) = 0 ↔ printed.passed = true := by
  rw [exitCode_ok]
  split <;> simp_all

theorem exitCode_ok_eq_one {printed : Printed} (failed : exitCode (.ok printed) ≠ 0) :
    exitCode (.ok printed) = 1 := by
  rw [Ne, exitCode_ok_eq_zero_iff] at failed
  rw [exitCode_ok, if_neg failed]

theorem exitCode_eq_two_iff : outcome.exitCode = 2 ↔ ¬ ∃ printed, outcome = .ok printed := by
  cases outcome with
  | error failure => simp [exitCode]
  | ok printed =>
      rw [exitCode_ok]
      split <;> simp

theorem output_of_exitCode (failed : outcome.exitCode = 2) : outcome.output = "" := by
  cases outcome with
  | error failure => rfl
  | ok printed => exact absurd ⟨printed, rfl⟩ (exitCode_eq_two_iff.mp failed)

end Outcome

/-- A comparison as it is printed. -/
def comparisonText (json : Bool) (limit : Nat) (comparison : Comparison) : String :=
  if json then jsonText comparison.toJson else Report.comparisonText comparison limit

theorem loadConfig_eq_ok_iff {config : Config} :
    loadConfig files baseDir config? = .ok config ↔
      config? = none ∧ config = .standard ∨
        ∃ path, config? = some path ∧
          Config.load files (files.resolve path baseDir) = .ok config := by
  cases config? <;> simp [loadConfig, eq_comm]

/-- A comparison that can be made is reported, and the report passes. -/
theorem compare_eq_ok_iff {printed : Printed} :
    compare files baseDir config? json = .ok printed ↔
      ∃ config, loadConfig files baseDir config? = .ok config ∧
        ∃ options, Comparison.Options.ofConfig config = .ok options ∧
          ⟨comparisonText json config.previewLimit (.run options files baseDir), true⟩ = printed := by
  simp only [compare, Traversal.bind_eq_ok_iff, Traversal.mapError_eq_ok_iff, comparisonText]
  simp [pure, Except.pure]

theorem exists_compare_iff :
    (∃ printed, compare files baseDir config? json = .ok printed) ↔
      ∀ path, config? = some path → ¬ Config.Fails files (files.resolve path baseDir) := by
  have reached : (∃ printed, compare files baseDir config? json = .ok printed) ↔
      ∃ config, loadConfig files baseDir config? = .ok config ∧
        ∃ options, Comparison.Options.ofConfig config = .ok options := by
    simp only [compare_eq_ok_iff]
    constructor
    · intro given
      obtain ⟨_, config, loaded, options, made, _⟩ := given
      exact ⟨config, loaded, options, made⟩
    · intro made
      obtain ⟨config, loaded, options, made⟩ := made
      exact ⟨_, config, loaded, options, made, rfl⟩
  simp only [reached, Comparison.Options.exists_ofConfig_iff, loadConfig_eq_ok_iff]
  cases config? with
  | none =>
      have unlisted (entry : String × String) : entry ∉ Config.standard.typeSections.entries :=
        fun listed => nomatch listed
      simp [unlisted]
  | some path => simp [Config.not_fails_iff]

theorem exitCode_compare_eq_two_iff :
    (compare files baseDir config? json).exitCode = 2 ↔
      ∃ path, config? = some path ∧ Config.Fails files (files.resolve path baseDir) := by
  rw [Outcome.exitCode_eq_two_iff, exists_compare_iff]
  simp only [not_forall, not_not, exists_prop]

theorem exitCode_compare_eq_zero (reported : (compare files baseDir config? json).exitCode ≠ 2) :
    (compare files baseDir config? json).exitCode = 0 := by
  obtain ⟨printed, given⟩ := not_not.mp (mt Outcome.exitCode_eq_two_iff.mpr reported)
  obtain ⟨_, _, _, _, rfl⟩ := compare_eq_ok_iff.mp given
  rw [given, Outcome.exitCode_ok_eq_zero_iff]

/-- The results of a validation as they are printed. -/
def resultsText (json : Bool) (results : List Validation.FileResult) : String :=
  if json then jsonText (.array (results.map (·.toJson))) else Report.validationText results

section Validate

open Validation

variable {documents : List String} {schema? : Option String}

theorem validate_of_error {error : SetupError}
    (failed : Validator.ofFile files (schemaPath files baseDir schema?) = .error error) :
    validate files baseDir documents schema? json =
      .error (.schema (schemaPath files baseDir schema?) error) := by
  simp only [validate, failed]
  rfl

theorem validate_of_ok {validator : Validator}
    (prepared : Validator.ofFile files (schemaPath files baseDir schema?) = .ok validator) :
    validate files baseDir documents schema? json =
      .ok ⟨resultsText json (documents.map (FileResult.of validator files)),
        (documents.map (FileResult.of validator files)).all (·.valid)⟩ := by
  simp only [validate, prepared]
  rfl

theorem exitCode_validate_eq_two_iff :
    (validate files baseDir documents schema? json).exitCode = 2 ↔
      ∃ error, Validator.ofFile files (schemaPath files baseDir schema?) = .error error := by
  rw [Outcome.exitCode_eq_two_iff]
  cases prepared : Validator.ofFile files (schemaPath files baseDir schema?) with
  | error error => simp [validate_of_error prepared]
  | ok validator => simp [validate_of_ok prepared]

end Validate

/-- The command with its report printed as JSON or in words. -/
def Command.withJson (json : Bool) : Command → Command
  | .compare _ => .compare json
  | .lint _ => .lint json
  | .validate documents schema? _ => .validate documents schema? json

theorem exitCode_withJson (command : Command) :
    (Invocation.outcome ⟨baseDir, config?, command.withJson json⟩ files).exitCode =
      (Invocation.outcome ⟨baseDir, config?, command⟩ files).exitCode := by
  cases command with
  | compare shown =>
      change (compare files baseDir config? json).exitCode =
        (compare files baseDir config? shown).exitCode
      by_cases fails : ∃ path, config? = some path ∧
          Config.Fails files (files.resolve path baseDir)
      · rw [exitCode_compare_eq_two_iff.mpr fails, exitCode_compare_eq_two_iff.mpr fails]
      · have reported (json : Bool) : (compare files baseDir config? json).exitCode = 0 :=
          exitCode_compare_eq_zero (mt exitCode_compare_eq_two_iff.mp fails)
        rw [reported, reported]
  | lint shown => rfl
  | validate documents schema? shown =>
      change (validate files baseDir documents schema? json).exitCode =
        (validate files baseDir documents schema? shown).exitCode
      cases prepared : Validation.Validator.ofFile files (schemaPath files baseDir schema?) with
      | error error => rw [validate_of_error prepared, validate_of_error prepared]
      | ok validator => rw [validate_of_ok prepared, validate_of_ok prepared]; rfl

/-- A command fails, and then prints nothing, for what it cannot do without: a comparison for the
configuration that is asked for, a validation for its schema, a lint run for nothing.  Otherwise a
comparison succeeds whatever the files are, a lint run if it finds no error, and a validation, which
reports on each document by itself, if all of them pass.  The form of a report does not matter for
the code, and the configuration matters for comparisons only. -/
theorem exit_codes_tell_failures (files : Files.FileSystem) (baseDir : String)
    (config? : Option String) :
    let run := fun command => Invocation.outcome ⟨baseDir, config?, command⟩ files
    (∀ json,
      ((run (.compare json)).exitCode = 2 ↔
        ∃ path, config? = some path ∧ Config.Fails files (files.resolve path baseDir)) ∧
      ((run (.compare json)).exitCode ≠ 2 → (run (.compare json)).exitCode = 0)) ∧
    (∀ json,
      ((run (.lint json)).exitCode = 0 ↔
        ∀ finding ∈ (Lint.run files baseDir).findings, finding.severity ≠ .error) ∧
      ((run (.lint json)).exitCode ≠ 0 → (run (.lint json)).exitCode = 1)) ∧
    (∀ documents schema? json,
      let outcome := run (.validate documents schema? json)
      let prepared := Validation.Validator.ofFile files (schemaPath files baseDir schema?)
      (outcome.exitCode = 2 ↔ ∃ error, prepared = .error error) ∧
      ∀ validator, prepared = .ok validator →
        outcome.output = resultsText json (documents.map fun document =>
          .ofEntry validator document (files document)) ∧
        (outcome.exitCode = 0 ↔
          ∀ document ∈ documents, Validation.Passes validator files document) ∧
        (outcome.exitCode ≠ 0 → outcome.exitCode = 1)) ∧
    (∀ command, (run command).exitCode = 2 → (run command).output = "") ∧
    (∀ command json, (run (command.withJson json)).exitCode = (run command).exitCode) ∧
    ∀ command other?, (∀ json, command ≠ .compare json) →
      Invocation.outcome ⟨baseDir, other?, command⟩ files = run command := by
  intro run
  refine ⟨fun json => ?_, fun json => ?_, fun documents schema? json => ?_,
    fun command => Outcome.output_of_exitCode, fun command json => exitCode_withJson command, ?_⟩
  · exact ⟨exitCode_compare_eq_two_iff, exitCode_compare_eq_zero⟩
  · exact ⟨Outcome.exitCode_ok_eq_zero_iff.trans Lint.passed_iff_forall, Outcome.exitCode_ok_eq_one⟩
  · intro outcome prepared
    refine ⟨exitCode_validate_eq_two_iff, fun validator found => ?_⟩
    have whole : outcome = .ok _ := validate_of_ok found
    rw [whole]
    refine ⟨?_, ?_, Outcome.exitCode_ok_eq_one⟩
    · exact congrArg (resultsText json)
        (List.map_congr_left fun _ _ => Validation.FileResult.of_eq_ofEntry)
    · simp only [Outcome.exitCode_ok_eq_zero_iff, List.all_map, List.all_eq_true,
        Function.comp_apply, Validation.FileResult.valid_of_iff]
  · intro command other? different
    cases command with
    | compare json => exact absurd rfl (different json)
    | lint json => rfl
    | validate documents schema? json => rfl

end CommandLine

end Concord
