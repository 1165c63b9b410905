import Concord.Text.Runs
import Concord.Text.Uppercase

namespace Concord.Text

/-! Sets of characters, put together from tables.

A set can be taken without regard to case, with all characters that share a small letter with one of
its own.
-/

/-- Characters that one small letter stands for, where capitals do not lead from one to the
other. -/
def foldedTogether : List (List Nat) := [
  [0x4B, 0x6B, 0x212A], [0xC5, 0xE5, 0x212B], [0xDF, 0x1E9E], [0x390, 0x1FD3],
  [0x398, 0x3B8, 0x3D1, 0x3F4], [0x3A9, 0x3C9, 0x2126], [0x3B0, 0x1FE3], [0x1FB3, 0x1FBC],
  [0x1FC3, 0x1FCC], [0x1FF3, 0x1FFC], [0xFB05, 0xFB06], [0x49, 0x69], [0x131]]

/-- Greek vowels with an iota below or beside them: eight small ones before eight capitals. -/
def isVowelWithIota (code : Nat) : Bool := 0x1F80 ≤ code && code < 0x1FB0

/-- The characters that share a small letter with one, itself among them. -/
def caseVariants (c : Char) : List Char :=
  match foldedTogether.find? (·.contains c.toNat) with
  | some codes => codes.map Char.ofNat
  | none =>
      if isVowelWithIota c.toNat then
        [c, Char.ofNat (if c.toNat % 16 < 8 then c.toNat + 8 else c.toNat - 8)]
      else
        let capitals := match capital c with
          | [one] => if one = c then [] else [one]
          | _ => []
        let small (d : Char) : List Char :=
          capitalRuns.filterMap fun run =>
            let code := ((d.toNat : Int) - run.shift).toNat
            if run.covers code && code != c.toNat then some (Char.ofNat code) else none
        c :: capitals ++ (c :: capitals).flatMap small

inductive CharSet where
  | runs (table : Runs)
  | complement (set : CharSet)
  | union (first second : CharSet)
  | intersection (first second : CharSet)
  /-- The characters of a set and those that differ from one of them in case alone. -/
  | ignoringCase (set : CharSet)

namespace CharSet

def contains : CharSet → Char → Bool
  | .runs table, c => table.contain c.toNat
  | .complement set, c => !set.contains c
  | .union first second, c => first.contains c || second.contains c
  | .intersection first second, c => first.contains c && second.contains c
  | .ignoringCase set, c => (caseVariants c).any set.contains

def empty : CharSet := .runs []

def all : CharSet := .complement .empty

def one (c : Char) : CharSet := .runs [(c.toNat, c.toNat, 1)]

def between (first last : Char) : CharSet := .runs [(first.toNat, last.toNat, 1)]

def ofList (chars : List Char) : CharSet := .runs (chars.map fun c => (c.toNat, c.toNat, 1))

def ofTables (tables : List Runs) : CharSet := .runs tables.flatten

def difference (first second : CharSet) : CharSet := .intersection first (.complement second)

def symmetricDifference (first second : CharSet) : CharSet :=
  .union (difference first second) (difference second first)

def complementIf (negated : Bool) (set : CharSet) : CharSet :=
  if negated then .complement set else set

end CharSet

end Concord.Text
