import Concord.Config
import Concord.Context
import Concord.Sources
import Concord.Xsd.Fields

namespace Concord

/-! A comparison of the four representations of a schema version.

A document that could not be loaded declares nothing; the comparison goes on without it.
-/

structure Comparison.Options where
  maxDepth : Nat
  sections : Xsd.TypeSections
  checklists : List Drift.Checklist

namespace Comparison.Options

def standard : Options where
  maxDepth := Schema.defaultDepth
  sections := .standard
  checklists := Drift.Checklist.standard

def ofConfig (config : Config) : Except PathError Options := do
  return { maxDepth := config.maxDepth, sections := ← config.sections,
           checklists := config.checklists }

end Comparison.Options

structure Comparison where
  baseDir : String
  inventories : Inventories
  matrix : Drift.PresenceMatrix
  sections : List Drift.SectionReport
  summary : Drift.Summary
  issues : List SourceIssue
  loaded : List (Representation × Bool)

namespace Comparison

/-- What a loaded document yields; without it, nothing. -/
def declared [EmptyCollection β] (document : Except SourceIssue α) (extract : α → β) : β :=
  match document with
  | .ok document => extract document
  | .error _ => ∅

def inventoriesOf (options : Options) (sources : Sources) : Inventories where
  jsonSchema := declared sources.jsonSchema fun schema =>
    Schema.fields options.maxDepth (.ofJson schema)
  context := declared sources.context Context.names
  metaSchema := declared sources.metaSchema fun schema => Schema.keywords (.ofJson schema)
  xsd := declared sources.xsd (Xsd.fields options.sections)

def gaps (options : Options) (sources : Sources) : List SourceIssue :=
  declared sources.xsd (Xsd.mappingGaps options.sections)

/-- Of each representation, whether the issues that are attributed to it are mere warnings. -/
def flagsOf (issues : List SourceIssue) : List (Representation × Bool) :=
  Representation.all.map fun representation =>
    (representation, !issues.any fun issue =>
      issue.representation = representation && !issue.isWarning)

def ofSources (options : Options) (baseDir : String) (sources : Sources) : Comparison :=
  let inventories := inventoriesOf options sources
  let matrix := Drift.PresenceMatrix.ofInventories inventories
  { baseDir
    inventories
    matrix
    sections := options.checklists.map (.ofChecklist inventories)
    summary := .ofMatrix matrix
    issues := sources.failures ++ gaps options sources
    loaded := flagsOf sources.failures }

def run (options : Options) (files : Files.FileSystem) (baseDir : String) : Comparison :=
  ofSources options baseDir (.load files baseDir)

def mismatchCount (comparison : Comparison) : Nat :=
  comparison.sections.foldl (fun count table => count + table.mismatchCount) 0

def failures (comparison : Comparison) : List SourceIssue :=
  comparison.issues.filter fun issue => !issue.isWarning

def toJson (comparison : Comparison) : Json :=
  .object [("base_dir", .string comparison.baseDir),
    ("sections", .array (comparison.sections.map (·.toJson))),
    ("summary", comparison.summary.toJson),
    ("issues", .array (comparison.issues.map (·.toJson))),
    ("loaded", .object (comparison.loaded.map fun entry => (entry.1.id, .bool entry.2)))]

end Comparison

end Concord
