import Concord.Text.Interval

namespace Concord.Text

/-! Characters as bytes of UTF-8.

The characters of an interval are sequences of ranges of bytes.  A sequence of ranges stands for
the texts whose bytes lie in one range each.
-/

abbrev ByteRanges := List (Nat × Nat)

/-- How many numbers have so many digits to the base 64. -/
def sixBitNumbers : Nat → Nat
  | 0 => 1
  | digits + 1 => 64 * sixBitNumbers digits

/-- The numbers between two others of so many digits to the base 64, by ranges of digits. Cuts are
made only where the lower digits do not run through all of their values. -/
def digitRanges : Nat → Nat → Nat → List ByteRanges
  | 0, _, _ => [[]]
  | digits + 1, first, last =>
      let unit := sixBitNumbers digits
      let under (low high : Nat) (rest : List ByteRanges) : List ByteRanges :=
        rest.map ((low, high) :: ·)
      let low := first / unit
      let high := last / unit
      if low = high then under low low (digitRanges digits (first % unit) (last % unit))
      else
        let cutsLow := first % unit != 0
        let cutsHigh := last % unit != unit - 1
        let fullLow := if cutsLow then low + 1 else low
        let fullHigh := if cutsHigh then high else high + 1
        (if cutsLow then under low low (digitRanges digits (first % unit) (unit - 1)) else []) ++
          (if fullLow < fullHigh then
            under fullLow (fullHigh - 1) (digitRanges digits 0 (unit - 1)) else []) ++
          (if cutsHigh then under high high (digitRanges digits 0 (last % unit)) else [])

/-- Digits as bytes: the first one bears the mark of the length. -/
def markedBytes (mark : Nat) : ByteRanges → ByteRanges
  | [] => []
  | (low, high) :: rest =>
      (mark + low, mark + high) :: rest.map fun (low, high) => (0x80 + low, 0x80 + high)

/-- The code points that take one to four bytes, by their first and last one, the number of
further bytes and the mark of the first byte. Halves of surrogate pairs are left out. -/
def byteLengths : List (Nat × Nat × Nat × Nat) := [
  (0, 0x7F, 0, 0), (0x80, 0x7FF, 1, 0xC0), (0x800, 0xD7FF, 2, 0xE0), (0xE000, 0xFFFF, 2, 0xE0),
  (0x10000, 0x10FFFF, 3, 0xF0)]

def byteRanges (interval : Nat × Nat) : List ByteRanges :=
  byteLengths.flatMap fun (first, last, further, mark) =>
    let low := max first interval.1
    let high := min last interval.2
    if high < low then []
    else if further = 0 then [[(low, high)]]
    else (digitRanges (further + 1) low high).map (markedBytes mark)

def byteSize (code : Nat) : Nat :=
  if code ≤ 0x7F then 1 else if code ≤ 0x7FF then 2 else if code ≤ 0xFFFF then 3 else 4

/-- Where bytes cease to be UTF-8. -/
structure Utf8Fault where
  position : Nat
  /-- How many bytes from there are at fault, unless a character is cut off by the end. -/
  length? : Option Nat
deriving DecidableEq, Repr

def Utf8Fault.message (fault : Utf8Fault) : String :=
  match fault.length? with
  | some length =>
      "invalid utf-8 sequence of " ++ toString length ++ " bytes from index " ++
        toString fault.position
  | none => "incomplete utf-8 byte sequence from index " ++ toString fault.position

/-- The ranges of the bytes that may follow the first byte of a character. -/
def followingBytes? (first : Nat) : Option ByteRanges :=
  let any := (0x80, 0xBF)
  if first < 0x80 then some []
  else if first < 0xC2 then none
  else if first < 0xE0 then some [any]
  else if first = 0xE0 then some [(0xA0, 0xBF), any]
  else if first = 0xED then some [(0x80, 0x9F), any]
  else if first < 0xF0 then some [any, any]
  else if first = 0xF0 then some [(0x90, 0xBF), any, any]
  else if first < 0xF4 then some [any, any, any]
  else if first = 0xF4 then some [(0x80, 0x8F), any, any]
  else none

/-- What stands behind bytes in these ranges, or how many bytes were read until one did not fit;
none if the text ended. -/
def passBytes (read : Nat) : ByteRanges → List UInt8 → Except (Option Nat) (List UInt8)
  | [], bytes => .ok bytes
  | _ :: _, [] => .error none
  | (low, high) :: ranges, byte :: rest =>
      if low ≤ byte.toNat ∧ byte.toNat ≤ high then passBytes (read + 1) ranges rest
      else .error (some read)

/-- The first fault from a position on, in at most so many characters. -/
def utf8FaultFrom? (position : Nat) : Nat → List UInt8 → Option Utf8Fault
  | 0, _ | _, [] => none
  | steps + 1, first :: rest =>
      match followingBytes? first.toNat with
      | none => some ⟨position, some 1⟩
      | some ranges =>
          match passBytes 1 ranges rest with
          | .ok behind => utf8FaultFrom? (position + 1 + ranges.length) steps behind
          | .error length? => some ⟨position, length?⟩

def utf8Fault? (bytes : List UInt8) : Option Utf8Fault := utf8FaultFrom? 0 bytes.length bytes

end Concord.Text
