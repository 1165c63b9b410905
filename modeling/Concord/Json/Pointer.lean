import Concord.Json.Basic

namespace Concord.Json

/-! Pointers into JSON values, as steps and in writing.

In writing every step follows a slash; a slash within a step is written `~1` and a tilde `~0`.
-/

/-- The names and positions that lead from a value to one of its parts. -/
abbrev Pointer := List String

def escapedStepChar (c : Char) : List Char :=
  if c = '~' then ['~', '0'] else if c = '/' then ['~', '1'] else [c]

def writeStep (step : String) : String := String.ofList (step.toList.flatMap escapedStepChar)

/-- A tilde that begins no escaped character stands for itself. -/
def readStep : List Char → List Char
  | [] => []
  | '~' :: '0' :: rest => '~' :: readStep rest
  | '~' :: '1' :: rest => '/' :: readStep rest
  | c :: rest => c :: readStep rest

/-- Whether every tilde begins an escaped character. -/
def isEscaped : List Char → Bool
  | [] => true
  | '~' :: '0' :: rest | '~' :: '1' :: rest => isEscaped rest
  | c :: rest => c != '~' && isEscaped rest

namespace Pointer

def write (pointer : Pointer) : String :=
  String.join (pointer.map fun step => "/" ++ writeStep step)

/-- The steps between slashes, as they are written. -/
def writtenSteps : List Char → List (List Char)
  | [] => [[]]
  | c :: rest =>
      if c = '/' then [] :: writtenSteps rest
      else
        match writtenSteps rest with
        | [] => [[c]]
        | step :: later => (c :: step) :: later

def ofText? (text : String) : Option Pointer :=
  match text.toList with
  | [] => some []
  | '/' :: rest => some ((writtenSteps rest).map fun step => String.ofList (readStep step))
  | _ => none

/-- Whether a text is a pointer in its proper writing. -/
def isWritten (text : List Char) : Bool :=
  (text.isEmpty || text.head? == some '/') && isEscaped text

/-- Whether a text is a pointer that begins so many levels up, or asks for the name there. The
number has no leading zeros. -/
def isWrittenRelative (text : List Char) : Bool :=
  let levels := text.takeWhile Char.isDigit
  let behind := text.dropWhile Char.isDigit
  (levels.head?.map fun first => first ≠ '0' || levels.length = 1).getD false &&
    (behind == ['#'] || isWritten behind)

end Pointer

/-- A position in an array: digits, without a leading zero. -/
def position? (step : String) : Option Nat :=
  match step.toList with
  | [] => none
  | first :: rest =>
      if (first :: rest).all Char.isDigit ∧ (first ≠ '0' ∨ rest = []) then step.toNat? else none

def part? (value : Json) (step : String) : Option Json :=
  match value with
  | .object members => lastValue? step members
  | .array items => (position? step).bind (items[·]?)
  | _ => none

/-- What a pointer leads to. -/
def at? (value : Json) (pointer : Pointer) : Option Json := pointer.foldlM part? value

end Concord.Json
