import Concord.Regex.Syntax

namespace Concord.Regex

/-! What the readers of regular expressions have in common. -/

/-- Why a text is no expression. -/
inductive Fault where
  | malformed
  /-- It has a condition on the text around a place, which not all expressions may have. -/
  | looksAround
deriving DecidableEq, Repr

def orMalformed {α : Type} : Option α → Except Fault α
  | some value => .ok value
  | none => .error .malformed

/-- What a dialect of regular expressions allows and means. -/
structure Dialect where
  /-- Whether a control character may be written as `\c` and a letter. -/
  controlEscapes : Bool
  /-- Whether digits, words and blanks are those of ASCII, with the blanks of scripts. -/
  asciiClasses : Bool

namespace Dialect

/-- Expressions whose classes are those of all writing systems. -/
def worldwide : Dialect := ⟨false, false⟩

/-- Expressions as scripts of the web know them. -/
def web : Dialect := ⟨true, true⟩

end Dialect

structure Flags where
  ignoreCase : Bool
  multiLine : Bool
  dotAll : Bool
  extended : Bool
  unicode : Bool

namespace Flags

def standard : Flags := ⟨false, false, false, false, true⟩

/-- A flag set or cleared; two of the letters change nothing that is asked here. -/
def set? (flags : Flags) (letter : Char) (value : Bool) : Option Flags :=
  match letter with
  | 'i' => some { flags with ignoreCase := value }
  | 'm' => some { flags with multiLine := value }
  | 's' => some { flags with dotAll := value }
  | 'x' => some { flags with extended := value }
  | 'u' => some { flags with unicode := value }
  | 'U' | 'R' => some flags
  | _ => none

/-- The set that stands for one in an expression. Without Unicode, case differs in ASCII alone. -/
def fold (flags : Flags) (chars : Text.CharSet) : Text.CharSet :=
  if !flags.ignoreCase then chars
  else if flags.unicode then .ignoringCase chars
  else .union chars (.intersection (.ignoringCase chars) (.between '\x00' '\x7f'))

end Flags

/-- Blanks and comments, which an extended expression may be laid out with. -/
def skipLayout : Nat → List Char → List Char
  | 0, text => text
  | steps + 1, text =>
      match text with
      | '#' :: rest => skipLayout steps (rest.dropWhile (· ≠ '\n'))
      | c :: rest => if Text.isWhiteSpace c then skipLayout steps rest else text
      | [] => []

def skipIgnored (flags : Flags) (text : List Char) : List Char :=
  if flags.extended then skipLayout text.length text else text

def hexDigit? (c : Char) : Option Nat :=
  if c.isDigit then some (c.toNat - '0'.toNat)
  else if 'a' ≤ c.toLower ∧ c.toLower ≤ 'f' then some (c.toLower.toNat - 'a'.toNat + 10)
  else none

def charOfHex? (digits : List Char) : Option Char := do
  if digits.isEmpty then none
  else
    let code ← digits.foldlM (fun value c => (hexDigit? c).map (value * 16 + ·)) 0
    if code.isValidChar then some (Char.ofNat code) else none

end Concord.Regex
