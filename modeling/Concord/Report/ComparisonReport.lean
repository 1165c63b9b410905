import Concord.Comparison
import Concord.Report.SectionTable

namespace Concord.Report

/-! The printed report of a comparison: a table for each section, what is missing where, totals
and issues.
-/

def paths (list : List FieldPath) : List String := list.map (·.render)

/-- Keywords of the meta-schema are listed in full. -/
def summaryLists (summary : Drift.Summary) (limit : Nat) : List Line :=
  titledList "Missing from context.jsonld" (paths summary.missingFromContext) limit ++
    titledList "Missing from schema.json" summary.missingFromSchema limit ++
    titledList "Only in schema.json" (paths summary.onlyInSchema) limit ++
    titledList "Only in context.jsonld" summary.onlyInContext limit ++
    titledList "Only in XSD" (paths summary.onlyInXsd) limit ++
    titledList "Only in meta-schema.json" (paths summary.onlyInMeta) summary.onlyInMeta.length

def totals (comparison : Comparison) : List Line :=
  (Representation.all.map fun representation =>
    line ("Total fields in " ++ representation.fileName ++ ": " ++
      toString (comparison.summary.total representation))) ++
    [line ("Mismatched section fields: " ++ toString comparison.mismatchCount)]

def issueLine (issue : SourceIssue) : Line :=
  line ("  [" ++ (if issue.isWarning then "warning" else "error") ++ "] " ++ issue.message)

def issueLines (issues : List SourceIssue) : List Line :=
  if issues.isEmpty then [] else blank :: banner (line "ISSUES") ++ issues.map issueLine

def comparisonLines (comparison : Comparison) (limit : Nat) : List Line :=
  banner (line "SCHEMA COMPARISON REPORT") ++ comparison.sections.flatMap sectionTable ++
    banner (line "SUMMARY") ++ summaryLists comparison.summary limit ++ totals comparison ++
    issueLines comparison.issues

def comparisonText (comparison : Comparison) (limit : Nat) : String :=
  text (comparisonLines comparison limit)

end Concord.Report
