import Concord.Json.Basic
import Concord.Representation

namespace Concord.Lint

/-! What a lint run finds in the documents of a schema version. -/

/-- How serious a finding is, the most serious first. -/
inductive Severity where
  | error
  | warning
  | info
deriving DecidableEq, Repr

namespace Severity

def all : List Severity := [.error, .warning, .info]

def id : Severity → String
  | .error => "error"
  | .warning => "warning"
  | .info => "info"

end Severity

structure Remark where
  severity : Severity
  text : String
deriving DecidableEq, Repr

structure Finding where
  file : Representation
  severity : Severity
  message : String
deriving DecidableEq, Repr

namespace Finding

def render (finding : Finding) : String := "[" ++ finding.file.fileName ++ "] " ++ finding.message

def toJson (finding : Finding) : Json :=
  .object [("file", .string finding.file.id), ("severity", .string finding.severity.id),
    ("message", .string finding.message)]

end Finding

def Remark.of (remark : Remark) (file : Representation) : Finding :=
  ⟨file, remark.severity, remark.text⟩

structure Report where
  findings : List Finding

namespace Report

def withSeverity (report : Report) (severity : Severity) : List Finding :=
  report.findings.filter (·.severity = severity)

def forFile (report : Report) (file : Representation) : List Finding :=
  report.findings.filter (·.file = file)

def count (report : Report) (severity : Severity) : Nat := (report.withSeverity severity).length

def passed (report : Report) : Bool := report.count .error = 0

def toJson (report : Report) : Json :=
  .object [("findings", .array (report.findings.map (·.toJson)))]

end Report

end Concord.Lint
