import Concord.Report.Page
import Concord.Text.Uppercase

namespace Concord

/-! Printed pages read back, line by line.

A text is read back as the lines it was printed from, provided that none of them holds a line break.
No capital is a line break, so a heading in capitals is one line if what it says is.
-/

namespace Text

theorem ofNat_ne_newline {code : Nat} (above : 10 < code) : Char.ofNat code ≠ '\n' := by
  intro same
  have codes := congrArg Char.toNat same
  by_cases valid : code.isValidChar
  · have kept : (Char.ofNat code).toNat = code := by
      rw [Char.ofNat, dif_pos valid]
      rfl
    exact Nat.ne_of_gt above (kept.symm.trans codes)
  · rw [Char.ofNat, dif_neg valid] at codes
    cases codes

theorem newline_not_mem_capital {c : Char} (other : c ≠ '\n') : '\n' ∉ capital c := by
  unfold capital
  split
  case h_1 entry found =>
    have letters : ∀ entry ∈ capitalSequences, '\n' ∉ entry.2.map Char.ofNat := by decide +kernel
    exact letters entry (List.mem_of_find?_eq_some found)
  case h_2 =>
    split
    case h_1 run found =>
      have above : ∀ run ∈ capitalRuns, 10 < run.first + run.shift := by decide +kernel
      have shifted := above run (List.mem_of_find?_eq_some found)
      have covered := List.find?_some found
      simp only [CapitalRun.covers, Bool.and_eq_true, decide_eq_true_eq] at covered
      have capitalCode : 10 < (c.toNat + run.shift).toNat := by omega
      exact mt List.mem_singleton.mp (ofNat_ne_newline capitalCode).symm
    case h_2 => exact mt List.mem_singleton.mp other.symm

theorem newline_not_mem_uppercase {text : String} (single : '\n' ∉ text.toList) :
    '\n' ∉ (uppercase text).toList := by
  rw [uppercase, String.toList_ofList, List.mem_flatMap]
  intro written
  obtain ⟨c, member, capitals⟩ := written
  exact newline_not_mem_capital (ne_of_mem_of_not_mem member single) capitals

end Text

namespace Report

/-- The lines of a printed text, without their line breaks. -/
def linesOf (text : String) : List Line := (text.toList.splitOn '\n').dropLast

theorem linesOf_text {page : List Line} (single : ∀ line ∈ page, '\n' ∉ line) :
    linesOf (text page) = page := by
  rw [linesOf, text, String.toList_ofList]
  induction page with
  | nil => rfl
  | cons line rest ih =>
      obtain ⟨first, later⟩ := List.forall_mem_cons.mp single
      rw [List.flatMap_cons, List.append_assoc, List.singleton_append,
        List.splitOn_append_cons_self, List.splitOn_eq_singleton first, List.singleton_append,
        List.dropLast_cons_of_ne_nil (List.splitOn_ne_nil _ _), ih later]

/-- A line with a line break in it is read back as two. -/
example : linesOf (text [['a', '\n', 'b']]) = [['a'], ['b']] := by decide +kernel

theorem newline_not_mem_padded {width : Nat} {column : Line} (single : '\n' ∉ column) :
    '\n' ∉ padded width column := by
  simp [padded, single]

theorem newline_not_mem_rule {mark : Char} (other : mark ≠ '\n') (width : Nat) :
    '\n' ∉ rule mark width := fun member => other (List.eq_of_mem_replicate member).symm

theorem newline_not_mem_banner {title : Line} (single : '\n' ∉ title) :
    ∀ line ∈ banner title, '\n' ∉ line := by
  have border := @newline_not_mem_rule '=' (by decide) ruleWidth
  simp [banner, blank, border, single]

end Report

end Concord
