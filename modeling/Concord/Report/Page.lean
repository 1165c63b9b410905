import Concord.Drift.Summary

namespace Concord.Report

/-! The parts of a printed report: lines, banners, columns and lists.

A page is a list of lines.  Columns are measured in characters; a text that is wider than its
column keeps all its characters and pushes the rest of the line to the right.
-/

abbrev Line := List Char

def ruleWidth : Nat := 80

def rule (mark : Char) (width : Nat) : Line := List.replicate width mark

def line (text : String) : Line := text.toList

def blank : Line := []

def padded (width : Nat) (text : Line) : Line :=
  text ++ List.replicate (width - text.length) ' '

def banner (title : Line) : List Line :=
  [rule '=' ruleWidth, title, rule '=' ruleWidth, blank]

/-- Every line ends with a line break. -/
def text (lines : List Line) : String := String.ofList (lines.flatMap (· ++ ['\n']))

/-- A titled list, of which at most `limit` items are shown. -/
def titledList (title : String) (items : List String) (limit : Nat) : List Line :=
  let preview := Drift.preview items limit
  [line (title ++ ":")] ++
    (if items.isEmpty then [line "  None"] else []) ++
    preview.shown.map (fun item => line ("  - " ++ item)) ++
    (if preview.hidden = 0 then []
      else [line ("  … and " ++ toString preview.hidden ++ " more")]) ++
    [blank]

end Concord.Report
