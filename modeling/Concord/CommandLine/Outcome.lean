import Concord.CommandLine.Request
import Concord.Lint.Checks
import Concord.Report.ComparisonReport
import Concord.Report.Findings

namespace Concord.CommandLine

/-! What comes of a command: a text to print and a code to exit with.

A comparison informs and always succeeds.  The other commands exit with 1 if they find errors.
What stops a command before it has anything to report makes it exit with 2, and nothing is
printed.
-/

inductive Failure where
  | config (error : Config.LoadError)
  | typeSections (error : PathError)
  | schema (path : String) (error : Validation.SetupError)
  | misuse

namespace Failure

def message : Failure → String
  | .config error => error.summary ++ ": " ++ error.message
  | .typeSections error => "invalid xsd_types in config: " ++ Config.typeSectionsMessage error
  | .schema path error => "cannot use schema " ++ path ++ ": " ++ error.message
  | .misuse => "the arguments are not understood"

end Failure

structure Printed where
  text : String
  passed : Bool

abbrev Outcome := Except Failure Printed

namespace Outcome

def exitCode : Outcome → Nat
  | .ok printed => if printed.passed then 0 else 1
  | .error _ => 2

def output : Outcome → String
  | .ok printed => printed.text
  | .error _ => ""

end Outcome

def jsonText (value : Json) : String := value.pretty ++ "\n"

def loadConfig (files : Files.FileSystem) (baseDir : String) (config? : Option String) :
    Except Config.LoadError Config :=
  match config? with
  | none => .ok .standard
  | some path => Config.load files (files.resolve path baseDir)

def compare (files : Files.FileSystem) (baseDir : String) (config? : Option String)
    (json : Bool) : Outcome := do
  let config ← (loadConfig files baseDir config?).mapError .config
  let options ← (Comparison.Options.ofConfig config).mapError .typeSections
  let comparison := Comparison.run options files baseDir
  let text :=
    if json then jsonText comparison.toJson
    else Report.comparisonText comparison config.previewLimit
  return ⟨text, true⟩

def lint (files : Files.FileSystem) (baseDir : String) (json : Bool) : Outcome :=
  let report := Lint.run files baseDir
  .ok ⟨if json then jsonText report.toJson else Report.lintText report, report.passed⟩

def schemaPath (files : Files.FileSystem) (baseDir : String) (schema? : Option String) : String :=
  match schema? with
  | some path => files.resolve path baseDir
  | none => Sources.path baseDir .jsonSchema

def validate (files : Files.FileSystem) (baseDir : String) (documents : List String)
    (schema? : Option String) (json : Bool) : Outcome := do
  let path := schemaPath files baseDir schema?
  let validator ← (Validation.Validator.ofFile files path).mapError (.schema path)
  let results := documents.map (Validation.FileResult.of validator files)
  let text :=
    if json then jsonText (.array (results.map (·.toJson)))
    else Report.validationText results
  return ⟨text, results.all (·.valid)⟩

def Invocation.outcome (invocation : Invocation) (files : Files.FileSystem) : Outcome :=
  match invocation.command with
  | .compare json => compare files invocation.baseDir invocation.config? json
  | .lint json => lint files invocation.baseDir json
  | .validate documents schema? json =>
      validate files invocation.baseDir documents schema? json

def versionText : String := "sr 0.1.0\n"

/-- The line of usage alone, without a word on what each option does. -/
def usageText (command? : Option String) : String :=
  let arguments := match command? with
    | none => "[OPTIONS] [COMMAND]"
    | some "validate" => "validate [OPTIONS] <FILES>..."
    | some "help" => "help [COMMAND]..."
    | some name => name ++ " [OPTIONS]"
  "Usage: sr " ++ arguments ++ "\n"

def Request.outcome (request : Request) (files : Files.FileSystem) : Outcome :=
  match request with
  | .perform invocation => invocation.outcome files
  | .version => .ok ⟨versionText, true⟩
  | .help command? => .ok ⟨usageText command?, true⟩

def outcome (files : Files.FileSystem) (arguments : List String) : Outcome :=
  match Request.ofArguments? arguments with
  | some request => request.outcome files
  | none => .error .misuse

end Concord.CommandLine
