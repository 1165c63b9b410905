namespace Concord.Text

/-! Tables of characters, and the one of white space. -/

/-- Runs of code points from a first to a last one, in steps. -/
abbrev Runs := List (Nat × Nat × Nat)

namespace Runs

def contain (runs : Runs) (code : Nat) : Bool :=
  runs.any fun (first, last, step) =>
    first ≤ code && code ≤ last && (code - first) % step == 0

def hexValue (digits : String) : Nat :=
  digits.foldl (fun value c =>
    16 * value + if c.isDigit then c.toNat - '0'.toNat else c.toNat - 'a'.toNat + 10) 0

/-- A run is written as its first code point, its last one behind a hyphen and its step behind a
slash, in hexadecimal digits. -/
def ofEntry (entry : String) : Nat × Nat × Nat :=
  let (ends, step) := match entry.splitOn "/" with
    | [ends, step] => (ends, hexValue step)
    | _ => (entry, 1)
  match ends.splitOn "-" with
  | [first, last] => (hexValue first, hexValue last, step)
  | _ => (hexValue ends, hexValue ends, step)

def ofText (text : String) : Runs := (text.splitOn " ").map ofEntry

def ofLines (lines : List String) : Runs := lines.flatMap ofText

end Runs

/-- The ranges of Unicode's property White_Space. -/
def whiteSpace : List (Nat × Nat) := [
  (0x9, 0xD), (0x20, 0x20), (0x85, 0x85), (0xA0, 0xA0), (0x1680, 0x1680), (0x2000, 0x200A),
  (0x2028, 0x2029), (0x202F, 0x202F), (0x205F, 0x205F), (0x3000, 0x3000)]

def isWhiteSpace (c : Char) : Bool :=
  whiteSpace.any fun (first, last) => first ≤ c.toNat && c.toNat ≤ last

def isBlank (text : String) : Bool := text.toList.all isWhiteSpace

end Concord.Text
