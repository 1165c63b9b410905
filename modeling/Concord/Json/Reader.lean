import Concord.Json.Basic
import Concord.Json.Cursor

namespace Concord.Json

/-! Reading JSON text.

The grammar is that of RFC 8259.  A fault is reported with its place; where a construct is cut off
the place is the end of the text, otherwise it is the first byte that does not fit.  Arrays and
objects may be nested 127 deep.
-/

inductive Fault where
  | endInValue
  | endInObject
  | endInList
  | endInString
  | trailingComma
  | keyNotString
  | noColon
  | noCommaInObject
  | noCommaInList
  | noValue
  | wrongWord
  | trailingCharacters
  | invalidNumber
  | numberOutOfRange
  | invalidEscape
  | cutSurrogatePair
  | loneSurrogate
  | controlCharacter
  | nestedTooDeep
deriving DecidableEq, Repr

def Fault.text : Fault → String
  | .endInValue => "EOF while parsing a value"
  | .endInObject => "EOF while parsing an object"
  | .endInList => "EOF while parsing a list"
  | .endInString => "EOF while parsing a string"
  | .trailingComma => "trailing comma"
  | .keyNotString => "key must be a string"
  | .noColon => "expected `:`"
  | .noCommaInObject => "expected `,` or `\x7d`"
  | .noCommaInList => "expected `,` or `]`"
  | .noValue => "expected value"
  | .wrongWord => "expected ident"
  | .trailingCharacters => "trailing characters"
  | .invalidNumber => "invalid number"
  | .numberOutOfRange => "number out of range"
  | .invalidEscape => "invalid escape"
  | .cutSurrogatePair => "unexpected end of hex escape"
  | .loneSurrogate => "lone leading surrogate in hex escape"
  | .controlCharacter => "control character (\\u0000-\\u001F) found while parsing a string"
  | .nestedTooDeep => "recursion limit exceeded"

structure ReadError where
  fault : Fault
  position : Position
deriving DecidableEq, Repr

def ReadError.message (error : ReadError) : String :=
  error.fault.text ++ " at line " ++ toString error.position.line ++ " column " ++
    toString error.position.column

private def failHere (cursor : Cursor) (fault : Fault) : Except ReadError α :=
  .error ⟨fault, cursor.here⟩

private def failAhead (cursor : Cursor) (fault : Fault) : Except ReadError α :=
  .error ⟨fault, cursor.ahead⟩

def isBlank (c : Char) : Bool := c == ' ' || c == '\n' || c == '\t' || c == '\r'

def skipBlanks (cursor : Cursor) : Cursor := (cursor.span isBlank).2

/-- The rest of a word whose first letter is read. -/
def readWord (value : Json) : List Char → Cursor → Except ReadError (Json × Cursor)
  | [], cursor => .ok (value, cursor)
  | expected :: letters, cursor =>
      match cursor.rest with
      | [] => failHere cursor .endInValue
      | c :: rest =>
          if c = expected then readWord value letters (cursor.after c rest)
          else failAhead cursor .wrongWord

def digitValue (c : Char) : Nat := c.toNat - '0'.toNat

def fitsWord (value : Nat) : Bool := value < 0x10000000000000000

/-- Digits before the point, as far as they fit 64 bits; each one left out multiplies by ten. -/
def wholeDigits : List Char → Nat → Bool → Int → Nat × Bool × Int
  | [], value, full, exponent => (value, full, exponent)
  | c :: rest, value, full, exponent =>
      let extended := value * 10 + digitValue c
      if full || !fitsWord extended then wholeDigits rest value true (exponent + 1)
      else wholeDigits rest extended false exponent

/-- Digits behind the point, up to the first that does not fit. -/
def fractionDigits : List Char → Nat → Int → Nat × Int
  | [], value, exponent => (value, exponent)
  | c :: rest, value, exponent =>
      let extended := value * 10 + digitValue c
      if fitsWord extended then fractionDigits rest extended (exponent - 1)
      else (value, exponent)

/-- The leading digits times a power of ten, each rounded, the product or quotient rounded again;
powers beyond 308 take two steps. -/
def scaleReal (significand : Nat) (exponent : Int) : Option Real64 := do
  let leading ← Real64.ofNat significand
  let power (k : Int) := Real64.ofNat (powerOfTen k.toNat)
  if leading.isZero then return leading
  else if exponent > 308 then none
  else if 0 ≤ exponent then leading.mul (← power exponent)
  else if -308 ≤ exponent then leading.div (← power (-exponent))
  else if -616 ≤ exponent then (← leading.div (← power 308)).div (← power (-exponent - 308))
  else return .zero

def finishReal (negative : Bool) (significand : Nat) (exponent : Int) (cursor : Cursor) :
    Except ReadError (Json × Cursor) :=
  match scaleReal significand exponent with
  | some value => .ok (.number (.real (value.withSign negative)), cursor)
  | none => failHere cursor .numberOutOfRange

/-- Exponent digits up to the largest 31-bit number; a larger one is decided by its sign. -/
def exponentDigits : List Char → Nat → Cursor → Option Nat × Cursor
  | [], value, cursor => (some value, cursor)
  | c :: rest, value, cursor =>
      let extended := value * 10 + digitValue c
      if extended < 0x80000000 then exponentDigits rest extended cursor.next
      else (none, cursor.next)

def readExponent (negative : Bool) (significand : Nat) (exponent : Int) (mark : Cursor) :
    Except ReadError (Json × Cursor) :=
  let cursor := mark.next
  let signed := match cursor.rest with
    | '+' :: _ => (false, cursor.next)
    | '-' :: _ => (true, cursor.next)
    | _ => (false, cursor)
  match signed with
  | (down, cursor) =>
      match cursor.rest with
      | [] => failHere cursor .endInValue
      | c :: _ =>
          if !c.isDigit then failAhead cursor .invalidNumber
          else
            let (digits, behind) := cursor.span Char.isDigit
            match exponentDigits digits 0 cursor with
            | (some size, _) =>
                finishReal negative significand
                  (if down then exponent - size else exponent + size) behind
            | (none, reached) =>
                if !down && significand != 0 then failHere reached .numberOutOfRange
                else .ok (.number (.real (Real64.zero.withSign negative)), behind)

def readFraction (negative : Bool) (significand : Nat) (exponent : Int) (point : Cursor) :
    Except ReadError (Json × Cursor) :=
  let (digits, cursor) := point.next.span Char.isDigit
  if digits.isEmpty then
    failAhead cursor (if cursor.rest.isEmpty then .endInValue else .invalidNumber)
  else
    let (significand, exponent) := fractionDigits digits significand exponent
    match cursor.rest with
    | 'e' :: _ | 'E' :: _ => readExponent negative significand exponent cursor
    | _ => finishReal negative significand exponent cursor

/-- A whole number without point and exponent. Minus zero and what does not fit 64 bits are
reals. -/
def finishWhole (negative : Bool) (significand : Nat) (full : Bool) (exponent : Int)
    (cursor : Cursor) : Except ReadError (Json × Cursor) :=
  if full || (negative && (significand == 0 || significand > 0x8000000000000000)) then
    finishReal negative significand exponent cursor
  else
    .ok (.number (.integer (if negative then -(significand : Int) else significand)), cursor)

/-- A number whose sign is read. -/
def readNumber (negative : Bool) (cursor : Cursor) : Except ReadError (Json × Cursor) :=
  match cursor.rest with
  | [] => failHere cursor .endInValue
  | first :: second =>
      if !first.isDigit then failAhead cursor .invalidNumber
      else if first = '0' && (second.head?.map Char.isDigit).getD false then
        failAhead cursor.next .invalidNumber
      else
        let (digits, behind) := cursor.span Char.isDigit
        let (significand, full, exponent) := wholeDigits digits 0 false 0
        match behind.rest with
        | '.' :: _ => readFraction negative significand exponent behind
        | 'e' :: _ | 'E' :: _ => readExponent negative significand exponent behind
        | _ => finishWhole negative significand full exponent behind

def hexValue? (c : Char) : Option Nat :=
  if c.isDigit then some (c.toNat - '0'.toNat)
  else if 'a' ≤ c ∧ c ≤ 'f' then some (c.toNat - 'a'.toNat + 10)
  else if 'A' ≤ c ∧ c ≤ 'F' then some (c.toNat - 'A'.toNat + 10)
  else none

def hexNumber? (digits : List Char) : Option Nat :=
  digits.foldl (fun value c => do return (← value) * 16 + (← hexValue? c)) (some 0)

/-- The four bytes of an escape, which must be hexadecimal digits. -/
def readHex (cursor : Cursor) : Except ReadError (Nat × Cursor) :=
  let size := cursor.rest.foldl (fun size c => size + c.utf8Size) 0
  if size < 4 then .error ⟨.endInString, cursor.atEnd⟩
  else
    match cursor.rest with
    | a :: b :: c :: d :: _ =>
        match hexNumber? [a, b, c, d] with
        | some value => .ok (value, cursor.next.next.next.next)
        | none => .error ⟨.invalidEscape, Cursor.bytesOn 4 cursor.rest cursor⟩
    | _ => .error ⟨.invalidEscape, Cursor.bytesOn 4 cursor.rest cursor⟩

/-- The second half of a surrogate pair. -/
def readLowSurrogate (high : Nat) (cursor : Cursor) : Except ReadError (Char × Cursor) :=
  match cursor.rest with
  | [] => failHere cursor .endInString
  | '\\' :: _ =>
      match cursor.next.rest with
      | [] => failHere cursor.next .endInString
      | 'u' :: _ => do
          let (low, behind) ← readHex cursor.next.next
          if 0xDC00 ≤ low ∧ low ≤ 0xDFFF then
            return (Char.ofNat (0x10000 + (high - 0xD800) * 0x400 + (low - 0xDC00)), behind)
          else failHere behind .loneSurrogate
      | _ => failAhead cursor.next .cutSurrogatePair
  | _ => failAhead cursor .cutSurrogatePair

def readUnicodeEscape (cursor : Cursor) : Except ReadError (Char × Cursor) := do
  let (unit, behind) ← readHex cursor
  if 0xDC00 ≤ unit ∧ unit ≤ 0xDFFF then failHere behind .loneSurrogate
  else if 0xD800 ≤ unit ∧ unit ≤ 0xDBFF then readLowSurrogate unit behind
  else return (Char.ofNat unit, behind)

/-- An escape whose backslash is read. -/
def readEscape (cursor : Cursor) : Except ReadError (Char × Cursor) :=
  match cursor.rest with
  | [] => failHere cursor .endInString
  | c :: _ =>
      match c with
      | '"' | '\\' | '/' => .ok (c, cursor.next)
      | 'b' => .ok ('\x08', cursor.next)
      | 'f' => .ok ('\x0c', cursor.next)
      | 'n' => .ok ('\n', cursor.next)
      | 'r' => .ok ('\r', cursor.next)
      | 't' => .ok ('\t', cursor.next)
      | 'u' => readUnicodeEscape cursor.next
      | _ => failAhead cursor .invalidEscape

/-- A string whose opening quote is read. Every step takes a character, so as many steps suffice
as there are characters left. -/
def readString (cursor : Cursor) : Except ReadError (String × Cursor) :=
  go (cursor.rest.length + 1) [] cursor
where
  go : Nat → List Char → Cursor → Except ReadError (String × Cursor)
    | 0, _, cursor => failHere cursor .endInString
    | steps + 1, read, cursor =>
        match cursor.rest with
        | [] => failHere cursor .endInString
        | '"' :: _ => .ok (String.ofList read.reverse, cursor.next)
        | '\\' :: _ => do
            let (c, behind) ← readEscape cursor.next
            go steps (c :: read) behind
        | c :: _ =>
            if c.toNat < 0x20 then failAhead cursor .controlCharacter
            else go steps (c :: read) cursor.next

/-- The items behind the first one, or behind the opening bracket if there is none. -/
def readItems (readItem : Cursor → Except ReadError (Json × Cursor)) :
    Nat → List Json → Cursor → Except ReadError (Json × Cursor)
  | 0, _, cursor => failHere cursor .endInList
  | steps + 1, read, cursor =>
      let cursor := skipBlanks cursor
      match cursor.rest with
      | [] => failAhead cursor .endInList
      | ']' :: _ => .ok (.array read.reverse, cursor.next)
      | c :: _ =>
          if read.isEmpty then do
            let (item, behind) ← readItem cursor
            readItems readItem steps [item] behind
          else if c ≠ ',' then failAhead cursor .noCommaInList
          else
            let behindComma := skipBlanks cursor.next
            match behindComma.rest with
            | [] => failAhead behindComma .endInValue
            | ']' :: _ => failAhead behindComma .trailingComma
            | _ => do
                let (item, behind) ← readItem behindComma
                readItems readItem steps (item :: read) behind

/-- One member, at the quote of its name. -/
def readMember (readItem : Cursor → Except ReadError (Json × Cursor)) (cursor : Cursor) :
    Except ReadError ((String × Json) × Cursor) := do
  let (name, behindName) ← readString cursor.next
  let colon := skipBlanks behindName
  match colon.rest with
  | [] => failAhead colon .endInObject
  | ':' :: _ => do
      let (value, behind) ← readItem colon.next
      return ((name, value), behind)
  | _ => failAhead colon .noColon

def readMembers (readItem : Cursor → Except ReadError (Json × Cursor)) :
    Nat → List (String × Json) → Cursor → Except ReadError (Json × Cursor)
  | 0, _, cursor => failHere cursor .endInObject
  | steps + 1, read, cursor =>
      let cursor := skipBlanks cursor
      match cursor.rest with
      | [] => failAhead cursor .endInObject
      | '\x7d' :: _ => .ok (.object read.reverse, cursor.next)
      | c :: _ =>
          if read.isEmpty then
            if c ≠ '"' then failAhead cursor .keyNotString
            else do
              let (member, behind) ← readMember readItem cursor
              readMembers readItem steps [member] behind
          else if c ≠ ',' then failAhead cursor .noCommaInObject
          else
            let behindComma := skipBlanks cursor.next
            match behindComma.rest with
            | [] => failAhead behindComma .endInValue
            | '\x7d' :: _ => failAhead behindComma .trailingComma
            | '"' :: _ => do
                let (member, behind) ← readMember readItem behindComma
                readMembers readItem steps (member :: read) behind
            | _ => failAhead behindComma .keyNotString

/-- A value with `depth` more levels of nesting allowed. -/
def readValue : Nat → Cursor → Except ReadError (Json × Cursor)
  | 0, cursor => failAhead (skipBlanks cursor) .nestedTooDeep
  | depth + 1, cursor =>
      let cursor := skipBlanks cursor
      match cursor.rest with
      | [] => failAhead cursor .endInValue
      | c :: rest =>
          match c with
          | 'n' => readWord .null ['u', 'l', 'l'] cursor.next
          | 't' => readWord (.bool true) ['r', 'u', 'e'] cursor.next
          | 'f' => readWord (.bool false) ['a', 'l', 's', 'e'] cursor.next
          | '-' => readNumber true cursor.next
          | '"' => do
              let (text, behind) ← readString cursor.next
              return (.string text, behind)
          | '[' =>
              if depth = 0 then failAhead cursor .nestedTooDeep
              else readItems (readValue depth) (rest.length + 1) [] cursor.next
          | '\x7b' =>
              if depth = 0 then failAhead cursor .nestedTooDeep
              else readMembers (readValue depth) (rest.length + 1) [] cursor.next
          | _ => if c.isDigit then readNumber false cursor else failAhead cursor .noValue

/-- Reads a text that holds one value and blanks around it. -/
def parse (text : String) : Except ReadError Json := do
  let (value, behind) ← readValue 128 (Cursor.start text)
  let behind := skipBlanks behind
  if behind.rest.isEmpty then return value
  else failAhead behind .trailingCharacters

end Concord.Json
