import Concord.Drift.Checklist
import Concord.Report.Page
import Concord.Text.Uppercase

namespace Concord.Report

/-! The table of a section: one line for every expected field, with a mark for each
representation.
-/

def mark (present : Bool) : Char := if present then '✅' else '❌'

def warningSign : Line := ['⚠', '\ufe0f']

def rowStart (mismatch : Bool) : Line :=
  if mismatch then warningSign ++ [' ', ' '] else [' ', ' ', ' ']

/-- Five columns with a blank between them. -/
def columns (first : Nat) (field jsonSchema jsonLdContext metaSchema xsd : Line) : Line :=
  padded first field ++ ' ' :: padded 15 jsonSchema ++ ' ' :: padded 18 jsonLdContext ++
    ' ' :: padded 15 metaSchema ++ ' ' :: padded 10 xsd

def tableHead : List Line :=
  [columns 25 (line "Field") (line Representation.jsonSchema.columnLabel)
      (line Representation.jsonLdContext.columnLabel) (line Representation.metaSchema.columnLabel)
      (line Representation.xsd.columnLabel),
    rule '-' 85]

/-- A row as it is printed: its field is any text, and its flag is shown as it is given. -/
structure TableRow where
  field : String
  presence : Drift.Presence
  isMismatch : Bool

namespace TableRow

def ofRow (row : Drift.SectionRow) : TableRow where
  field := row.field.text
  presence := row.presence
  isMismatch := row.isMismatch

def toLine (row : TableRow) : Line :=
  rowStart row.isMismatch ++
    columns 22 (line row.field) [mark row.presence.jsonSchema]
      [mark row.presence.jsonLdContext] [mark row.presence.metaSchema] [mark row.presence.xsd]

end TableRow

/-- A section as it is printed. -/
structure SectionTable where
  sectionPath : FieldPath
  rows : List TableRow

namespace SectionTable

def ofReport (report : Drift.SectionReport) : SectionTable where
  sectionPath := report.sectionPath
  rows := report.rows.map .ofRow

def head (sectionPath : FieldPath) : List Line :=
  banner (line (Text.uppercase sectionPath.render ++ " SECTION COMPARISON")) ++ tableHead

def lines (table : SectionTable) : List Line :=
  head table.sectionPath ++ table.rows.map (·.toLine) ++ [blank]

end SectionTable

def sectionTable (report : Drift.SectionReport) : List Line := (SectionTable.ofReport report).lines

end Concord.Report
