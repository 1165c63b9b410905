import Concord.Drift.Checklist
import Concord.Drift.Summary
import Concord.Files.FileSystem
import Concord.Schema.Fields
import Concord.Text.Runs
import Concord.Xsd.Fields
import Concord.Yaml.CoreSchema

namespace Concord

/-! The configuration of a comparison.

Every setting has a default, and a blank text is a configuration of defaults.  The checklists of a
configuration replace the standard ones, its sections of XSD types come on top of the standard
ones.
-/

structure Config where
  previewLimit : Nat
  maxDepth : Nat
  /-- The checklists, if the configuration gives any. -/
  given? : Option (List Drift.Checklist)
  /-- The section of each further type, as written. -/
  typeSections : Table String String

namespace Config

def standard : Config where
  previewLimit := Drift.defaultPreviewLimit
  maxDepth := Schema.defaultDepth
  given? := none
  typeSections := ∅

def checklists (config : Config) : List Drift.Checklist :=
  config.given?.getD Drift.Checklist.standard

/-- Entries are taken in the order of their type names. -/
def sections (config : Config) : Except PathError Xsd.TypeSections :=
  Xsd.TypeSections.standardWith config.typeSections.entries

/-- A count: a plain scalar, or a literal block tagged as a whole number. -/
def count? : Yaml.Node → Option Nat
  | .scalar tag? style text => do
      let fits := style = .plain ∨ (style = .literal ∧ tag? = some "tag:yaml.org,2002:int")
      let value ← Yaml.count? text
      if fits ∧ value < 0x10000000000000000 then return value else none
  | _ => none

def isUnwritten : Yaml.Node → Bool
  | .scalar _ .plain "" => true
  | _ => false

/-- What is not written is an empty sequence. -/
def items? : Yaml.Node → Option (List Yaml.Node)
  | .sequence _ items => some items
  | node => if isUnwritten node then some [] else none

/-- The entries of a mapping whose keys are texts; what is not written is an empty one. -/
def entries? : Yaml.Node → Option (List (String × Yaml.Node))
  | .mapping _ entries => entries.mapM fun (key, value) => do return (← key.text?, value)
  | node => if isUnwritten node then some [] else none

/-- The entries of a mapping that has only known keys, each once. -/
def settings? (known : List String) (node : Yaml.Node) : Option (Table String Yaml.Node) := do
  let entries ← entries? node
  let keys := entries.map (·.1)
  if keys.all known.contains ∧ keys.Nodup then return .ofList entries else none

def checklist? (node : Yaml.Node) : Option Drift.Checklist := do
  let settings ← settings? ["key", "fields"] node
  let key ← (← settings.get? "key").text?
  let fields ← (← items? (← settings.get? "fields")).mapM (·.text?)
  (Drift.Checklist.ofTexts key fields).toOption

/-- Whether a node leaves an optional setting out; fails if its tag says so and its text does
not. -/
def isLeftOut : Yaml.Node → Option Bool
  | .scalar (some "tag:yaml.org,2002:null") .plain text =>
      if Yaml.isNull text then some true else none
  | .scalar none .plain text => some (text = "" ∨ Yaml.isNull text)
  | _ => some false

def given (node : Yaml.Node) : Option (Option (List Drift.Checklist)) := do
  if ← isLeftOut node then return none else return some (← (← items? node).mapM checklist?)

def typeSections? (node : Yaml.Node) : Option (Table String String) := do
  let entries ← (← entries? node).mapM fun (type, written) => do return (type, ← written.text?)
  return .ofList entries

def names : List String := ["preview_limit", "max_depth", "sections", "xsd_types"]

def setting (settings : Table String Yaml.Node) (name : String) (read : Yaml.Node → Option α)
    (otherwise : α) : Option α :=
  match settings.get? name with
  | some node => read node
  | none => some otherwise

def ofNode? (node : Yaml.Node) : Option Config := do
  let settings ← settings? names node
  return {
    previewLimit := ← setting settings "preview_limit" count? standard.previewLimit
    maxDepth := ← setting settings "max_depth" count? standard.maxDepth
    given? := ← setting settings "sections" given standard.given?
    typeSections := ← setting settings "xsd_types" typeSections? standard.typeSections }

def ofText? (text : String) : Option Config :=
  if Text.isBlank text then some standard else (Yaml.Node.ofText? text).bind ofNode?

inductive LoadError where
  | unreadable (path : String) (error : Files.ReadError)
  | malformed (path : String)
deriving DecidableEq

/-- What is said of text that is no YAML, or no configuration. -/
def malformedYaml : String := "<yaml>"

namespace LoadError

def path : LoadError → String
  | .unreadable path _ => path
  | .malformed path => path

def cause : LoadError → String
  | .unreadable _ error => error.message
  | .malformed _ => malformedYaml

def message (error : LoadError) : String :=
  match error with
  | .unreadable path _ => "cannot read config " ++ path ++ ": " ++ error.cause
  | .malformed path => "invalid config " ++ path ++ ": " ++ error.cause

/-- What a command says that cannot go on. -/
def summary (error : LoadError) : String := "failed to load config " ++ error.path

end LoadError

/-- What is said of an entry that gives a type a section that cannot be. -/
def typeSectionsMessage (error : PathError) : String := "invalid xsd_types entry: " ++ error.message

def load (files : Files.FileSystem) (path : String) : Except LoadError Config :=
  match files.readText path with
  | .error error => .error (.unreadable path error)
  | .ok text =>
      match ofText? text with
      | some config => .ok config
      | none => .error (.malformed path)

end Config

end Concord
