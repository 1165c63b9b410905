import Concord.Lint.Finding
import Concord.Report.Page
import Concord.Validation.Documents

namespace Concord.Report

/-! The printed reports of findings.

A lint run is reported by severity, with the numbers at the end.  A validation has a line for every
document, and below it its violations.
-/

def heading : Lint.Severity → Line
  | .error => line "❌ ERRORS:"
  | .warning => line "⚠️  WARNINGS:"
  | .info => line "ℹ️  INFORMATION:"

def severityLines (report : Lint.Report) (severity : Lint.Severity) : List Line :=
  let findings := report.withSeverity severity
  if findings.isEmpty then []
  else
    [heading severity, rule '-' ruleWidth] ++
      findings.map (fun finding => line ("  " ++ finding.render)) ++ [blank]

def lintLines (report : Lint.Report) : List Line :=
  banner (line "LINTING RESULTS") ++ Lint.Severity.all.flatMap (severityLines report) ++
    [line ("Errors:   " ++ toString (report.count .error)),
      line ("Warnings: " ++ toString (report.count .warning)),
      line ("Info:     " ++ toString (report.count .info)),
      blank,
      line (if report.passed then "✅ All schema files passed linting!"
        else "❌ Linting failed with errors")]

def lintText (report : Lint.Report) : String := text (lintLines report)

def resultLines (result : Validation.FileResult) : List Line :=
  match result.outcome with
  | .error error => [line ("ERROR: " ++ result.file ++ ": " ++ error.message)]
  | .ok [] => [line ("OK: " ++ result.file)]
  | .ok findings =>
      line ("FAIL: " ++ result.file ++ " (" ++ toString findings.length ++ " error(s))") ::
        findings.map fun finding => line ("  " ++ finding.render)

def validationText (results : List Validation.FileResult) : String :=
  text (results.flatMap resultLines)

end Concord.Report
