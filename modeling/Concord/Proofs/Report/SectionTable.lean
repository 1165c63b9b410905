import Concord.Proofs.Report.Page
import Concord.Report.SectionTable
import Mathlib.Data.List.Forall2

namespace Concord.Report

/-! The table of a section, read back from its text.

Every row is one line.  A field that is wider than its column pushes the marks to the right, but not
away from the end of the line, so the marks are looked for from there.  The warning sign is looked for
at the beginning, where the lines of other rows have blanks.
-/

/-- What a character says as a mark. -/
def presentOf? (c : Char) : Option Bool :=
  if c = '✅' then some true else if c = '❌' then some false else none

theorem presentOf?_mark (present : Bool) : presentOf? (mark present) = some present := by
  cases present <;> rfl

/-- The mark that stands in a line at this distance from its end. -/
def markFromEnd? (letters : Line) (distance : Nat) : Option Bool :=
  letters[letters.length - distance]?.bind presentOf?

theorem markFromEnd?_append {after : Line} {distance : Nat} (near : distance ≤ after.length)
    (before : Line) : markFromEnd? (before ++ after) distance = markFromEnd? after distance := by
  have place : (before ++ after).length - distance = before.length + (after.length - distance) := by
    rw [List.length_append, Nat.add_sub_assoc near]
  rw [markFromEnd?, markFromEnd?, place, List.getElem?_append_right (Nat.le_add_right ..),
    Nat.add_sub_cancel_left]

/-- How far from the end of a line the column of a representation begins. -/
def columnFromEnd : Representation → Nat
  | .jsonSchema => 61
  | .jsonLdContext => 45
  | .metaSchema => 26
  | .xsd => 10

/-- What a line tells of a row. -/
structure Shows (line : Line) (row : TableRow) : Prop where
  field : rowStart row.isMismatch ++ row.field.toList <+: line
  sign : warningSign <+: line ↔ row.isMismatch = true
  marks : ∀ representation,
    markFromEnd? line (columnFromEnd representation) = some (row.presence.get representation)

namespace TableRow

/-- The end of a row's line, which has the same width in every row. -/
def markColumns (presence : Drift.Presence) : Line :=
  padded 15 [mark presence.jsonSchema] ++ ' ' :: padded 18 [mark presence.jsonLdContext] ++
    ' ' :: padded 15 [mark presence.metaSchema] ++ ' ' :: padded 10 [mark presence.xsd]

theorem markFromEnd?_markColumns (presence : Drift.Presence) (representation : Representation) :
    markFromEnd? (markColumns presence) (columnFromEnd representation) =
      some (presence.get representation) := by
  cases representation with
  | jsonSchema => exact presentOf?_mark presence.jsonSchema
  | jsonLdContext => exact presentOf?_mark presence.jsonLdContext
  | metaSchema => exact presentOf?_mark presence.metaSchema
  | xsd => exact presentOf?_mark presence.xsd

theorem toLine_eq (row : TableRow) :
    row.toLine =
      rowStart row.isMismatch ++ padded 22 row.field.toList ++ ' ' :: markColumns row.presence := by
  simp only [toLine, columns, markColumns, line, List.append_assoc, List.cons_append]

theorem markFromEnd?_toLine (row : TableRow) (representation : Representation) :
    markFromEnd? row.toLine (columnFromEnd representation) =
      some (row.presence.get representation) := by
  have near : columnFromEnd representation ≤ (markColumns row.presence).length := by
    cases representation <;> simp [markColumns, padded, columnFromEnd]
  rw [toLine_eq, ← List.singleton_append, ← List.append_assoc, markFromEnd?_append near,
    markFromEnd?_markColumns]

theorem field_prefix_toLine (row : TableRow) :
    rowStart row.isMismatch ++ row.field.toList <+: row.toLine := by
  rw [toLine_eq, padded, List.append_assoc, List.append_assoc, ← List.append_assoc]
  exact List.prefix_append _ _

theorem sign_prefix_toLine_iff {row : TableRow} :
    warningSign <+: row.toLine ↔ row.isMismatch = true := by
  rw [toLine_eq]
  cases row.isMismatch with
  | false => simp [rowStart, warningSign]
  | true => simp [rowStart]

theorem shows_toLine (row : TableRow) : Shows row.toLine row where
  field := row.field_prefix_toLine
  sign := sign_prefix_toLine_iff
  marks := row.markFromEnd?_toLine

theorem newline_not_mem_toLine {row : TableRow} (single : '\n' ∉ row.field.toList) :
    '\n' ∉ row.toLine := by
  have start : ∀ flagged, '\n' ∉ rowStart flagged := by decide
  have columns : ∀ present, '\n' ∉ [mark present] := by decide
  simp [toLine_eq, markColumns, newline_not_mem_padded, single, start, columns]

end TableRow

/-- The lines of a printed section that stand for rows: six lines stand above them, one below. -/
def dataLines (text : String) : List Line := ((linesOf text).drop 6).dropLast

namespace SectionTable

variable {table : SectionTable} {path : FieldPath}

def mismatchCount (table : SectionTable) : Nat := table.rows.countP (·.isMismatch)

theorem mismatchCount_ofReport (report : Drift.SectionReport) :
    (ofReport report).mismatchCount = report.mismatchCount := by
  rw [mismatchCount, ofReport, List.countP_map, List.countP_eq_length_filter]
  rfl

theorem newline_not_mem_head (single : '\n' ∉ path.render.toList) :
    ∀ line ∈ head path, '\n' ∉ line := by
  have title : '\n' ∉ line (Text.uppercase path.render ++ " SECTION COMPARISON") := by
    rw [line, String.toList_append, List.mem_append, not_or]
    exact ⟨Text.newline_not_mem_uppercase single, by decide⟩
  have columns : ∀ line ∈ tableHead, '\n' ∉ line := by decide
  exact List.forall_mem_append.mpr ⟨newline_not_mem_banner title, columns⟩

theorem newline_not_mem_lines (key : '\n' ∉ table.sectionPath.render.toList)
    (fields : ∀ row ∈ table.rows, '\n' ∉ row.field.toList) : ∀ line ∈ table.lines, '\n' ∉ line := by
  refine List.forall_mem_append.mpr ⟨List.forall_mem_append.mpr
    ⟨newline_not_mem_head key, List.forall_mem_map.mpr fun row member => ?_⟩, by decide⟩
  exact TableRow.newline_not_mem_toLine (fields row member)

theorem dataLines_text (key : '\n' ∉ table.sectionPath.render.toList)
    (fields : ∀ row ∈ table.rows, '\n' ∉ row.field.toList) :
    dataLines (text table.lines) = table.rows.map (·.toLine) := by
  have above : (head table.sectionPath).length = 6 := rfl
  rw [dataLines, linesOf_text (newline_not_mem_lines key fields), lines, List.append_assoc,
    List.drop_left' above, List.dropLast_concat]

theorem countP_sign_toLine (rows : List TableRow) :
    (rows.map (·.toLine)).countP (fun line => warningSign.isPrefixOf line) =
      rows.countP (·.isMismatch) := by
  rw [List.countP_map]
  refine List.countP_congr fun row _ => ?_
  rw [Function.comp_apply, List.isPrefixOf_iff_prefix, TableRow.sign_prefix_toLine_iff]

/-- The text of a table has its six lines of heading, one line for each row in their order, and an
empty line.  A row's line begins with its flag and its field, whatever this is, and the four marks are
read back at fixed distances from its end; so as many lines begin with the warning sign as rows are
flagged.  The printed table of a report is of this kind. -/
theorem section_table_is_read_back (table : SectionTable)
    (key : '\n' ∉ table.sectionPath.render.toList)
    (fields : ∀ row ∈ table.rows, '\n' ∉ row.field.toList) :
    let written := text table.lines
    linesOf written = head table.sectionPath ++ dataLines written ++ [blank] ∧
    List.Forall₂ Shows (dataLines written) table.rows ∧
    (dataLines written).countP (fun line => warningSign.isPrefixOf line) = table.mismatchCount ∧
    ∀ report : Drift.SectionReport, table = .ofReport report →
      sectionTable report = table.lines ∧ report.mismatchCount = table.mismatchCount := by
  intro written
  have data : dataLines written = table.rows.map (·.toLine) := dataLines_text key fields
  rw [data]
  refine ⟨linesOf_text (newline_not_mem_lines key fields), ?_, countP_sign_toLine table.rows, ?_⟩
  · exact List.forall₂_map_left_iff.mpr (List.forall₂_same.mpr fun row _ => row.shows_toLine)
  · rintro report rfl
    exact ⟨rfl, (mismatchCount_ofReport report).symm⟩

/-- A table with a field that is wider than its column, and one that looks like a sign and a mark. -/
def crowdedTable : SectionTable where
  sectionPath := ⟨[⟨⟨"references", by decide, by simp [isReserved]⟩, true⟩]⟩
  rows := [⟨"✅ a field of more than its share ❌", ⟨true, false, false, true⟩, true⟩,
    ⟨"⚠\ufe0f ❌", ⟨false, false, true, false⟩, false⟩]

theorem crowded_table_is_read_back :
    '\n' ∉ crowdedTable.sectionPath.render.toList ∧
    (∀ row ∈ crowdedTable.rows, '\n' ∉ row.field.toList) ∧
    List.Forall₂ Shows (dataLines (text crowdedTable.lines)) crowdedTable.rows ∧
    (dataLines (text crowdedTable.lines)).countP (fun line => warningSign.isPrefixOf line) = 1 := by
  have key : '\n' ∉ crowdedTable.sectionPath.render.toList := by decide +kernel
  have fields : ∀ row ∈ crowdedTable.rows, '\n' ∉ row.field.toList := by decide +kernel
  obtain ⟨_, shown, counted, _⟩ := section_table_is_read_back crowdedTable key fields
  exact ⟨key, fields, shown, counted⟩

end SectionTable

end Concord.Report
