import Concord.Yaml.Place

namespace Concord.Yaml

/-! Scalars: plain ones, quoted ones and blocks, with their lines folded. -/

inductive Style where
  | plain
  | singleQuoted
  | doubleQuoted
  | literal
  | folded
deriving DecidableEq, Repr

/-- What separates two words of a scalar. -/
structure Gap where
  blanks : List Char
  broken : Bool
  firstBreak : List Char
  laterBreaks : List Char

namespace Gap

def none : Gap := ⟨[], false, [], []⟩

/-- A gap that begins with a break that does not count. -/
def escaped : Gap := ⟨[], true, [], []⟩

/-- A single line break becomes a blank, and of several the first is dropped. -/
def text (gap : Gap) : List Char :=
  if !gap.broken then gap.blanks
  else if gap.firstBreak = ['\n'] then
    if gap.laterBreaks.isEmpty then [' '] else gap.laterBreaks
  else gap.firstBreak ++ gap.laterBreaks

/-- Blanks and breaks up to the next word. Behind a break no tab may stand in a column left of
`margin`. -/
def read (margin : Int) : Nat → Gap → Place → Option (Gap × Place)
  | 0, gap, place => some (gap, place)
  | steps + 1, gap, place =>
      match place.next? with
      | Option.none => some (gap, place)
      | some c =>
          if isBlank c then
            if gap.broken then
              if c = '\t' ∧ (place.column : Int) < margin then Option.none
              else read margin steps gap place.skip
            else read margin steps { gap with blanks := gap.blanks ++ [c] } place.skip
          else if isBreak c then
            let (written, behind) := place.readBreak
            if gap.broken then
              read margin steps { gap with laterBreaks := gap.laterBreaks ++ written } behind
            else read margin steps ⟨[], true, written, []⟩ behind
          else some (gap, place)

end Gap

def isFlowIndicator (c : Char) : Bool :=
  c == ',' || c == '[' || c == ']' || c == '\x7b' || c == '\x7d'

/-- A word of a plain scalar, last character first. A colon ends it before a gap; inside brackets
the characters that structure them end it too, and may not follow a colon. -/
def readWord (inFlow : Bool) : Nat → List Char → Place → Option (List Char × Place)
  | 0, word, place => some (word, place)
  | steps + 1, word, place =>
      match place.next? with
      | none => some (word, place)
      | some c =>
          let follower := place.ahead? 1
          if isGap c then some (word, place)
          else if inFlow && c == ':' &&
              (follower.map fun d => isFlowIndicator d || d == '?').getD false then none
          else if (c == ':' && place.gapAt 1) || (inFlow && isFlowIndicator c) then
            some (word, place)
          else readWord inFlow steps (c :: word) place.skip

structure PlainScalar where
  text : List Char
  /-- Whether lines were broken behind the last word. -/
  brokenBehind : Bool
  behind : Place

/-- The words of a plain scalar, as long as they are indented to the margin. -/
def readPlainWords (inFlow : Bool) (margin : Int) :
    Nat → List Char → Gap → Place → Option PlainScalar
  | 0, text, gap, place => some ⟨text, gap.broken, place⟩
  | steps + 1, text, gap, place =>
      if place.atDocumentMarker || place.next? = some '#' then some ⟨text, gap.broken, place⟩
      else do
        let (word, behind) ← readWord inFlow (place.rest.length + 1) [] place
        let (text, gap) :=
          if word.isEmpty then (text, gap) else (text ++ gap.text ++ word.reverse, Gap.none)
        if !behind.atBlank && !behind.atBreak then return ⟨text, gap.broken, behind⟩
        else
          let (gap, next) ← Gap.read margin (behind.rest.length + 1) gap behind
          if !inFlow && (next.column : Int) < margin then return ⟨text, gap.broken, next⟩
          else readPlainWords inFlow margin steps text gap next

def readPlain (inFlow : Bool) (indent : Int) (place : Place) : Option PlainScalar :=
  readPlainWords inFlow (indent + 1) (place.rest.length + 1) [] Gap.none place

def hexValue? (c : Char) : Option Nat :=
  if c.isDigit then some (c.toNat - '0'.toNat)
  else if 'a' ≤ c.toLower ∧ c.toLower ≤ 'f' then some (c.toLower.toNat - 'a'.toNat + 10)
  else none

/-- The character of an escape with a fixed number of hexadecimal digits. -/
def readCode (digits : Nat) (place : Place) : Option (Char × Place) := do
  let written := place.rest.take digits
  if written.length < digits then none
  else
    let code ← written.foldlM (fun value c => (hexValue? c).map (value * 16 + ·)) 0
    if code.isValidChar then return (Char.ofNat code, place.skipMany digits) else none

/-- An escape whose backslash is read. -/
def readEscape (place : Place) : Option (Char × Place) :=
  let named (c : Char) : Option (Char × Place) := some (c, place.skip)
  match place.next? with
  | some '0' => named '\x00'
  | some 'a' => named '\x07'
  | some 'b' => named '\x08'
  | some 't' => named '\t'
  | some '\t' => named '\t'
  | some 'n' => named '\n'
  | some 'v' => named '\x0b'
  | some 'f' => named '\x0c'
  | some 'r' => named '\r'
  | some 'e' => named '\x1b'
  | some ' ' => named ' '
  | some '"' => named '"'
  | some '/' => named '/'
  | some '\\' => named '\\'
  | some 'N' => named '\x85'
  | some '_' => named '\xa0'
  | some 'L' => named '\u2028'
  | some 'P' => named '\u2029'
  | some 'x' => readCode 2 place.skip
  | some 'u' => readCode 4 place.skip
  | some 'U' => readCode 8 place.skip
  | _ => none

/-- The characters of a quoted scalar, last one first, from behind a gap on. -/
def readQuotedWords (single : Bool) : Nat → List Char → Place → Option (List Char × Place)
  | 0, _, _ => none
  | steps + 1, text, place =>
      let quote := if single then '\'' else '"'
      let continued (gap : Gap) (place : Place) : Option (List Char × Place) := do
        let (gap, next) ← Gap.read 0 (place.rest.length + 1) gap place
        if next.atDocumentMarker then none
        else readQuotedWords single steps (gap.text.reverse ++ text) next
      match place.next? with
      | none => none
      | some c =>
          if isGap c then continued Gap.none place
          else if single && c == '\'' && place.ahead? 1 == some '\'' then
            readQuotedWords single steps (c :: text) place.skip.skip
          else if c = quote then some (text, place.skip)
          else if !single && c == '\\' then
            if place.skip.atBreak then continued Gap.escaped place.skip.skipBreak
            else do
              let (named, behind) ← readEscape place.skip
              readQuotedWords single steps (named :: text) behind
          else readQuotedWords single steps (c :: text) place.skip

/-- A scalar whose opening quote is read. -/
def readQuoted (single : Bool) (place : Place) : Option (List Char × Place) :=
  (readQuotedWords single (place.rest.length + 1) [] place).map fun (text, behind) =>
    (text.reverse, behind)

inductive Chomping where
  | strip
  | clip
  | keep
deriving DecidableEq, Repr

def readChomping (place : Place) : Option Chomping × Place :=
  match place.next? with
  | some '+' => (some .keep, place.skip)
  | some '-' => (some .strip, place.skip)
  | _ => (none, place)

/-- A number of columns to indent by, which is not zero. -/
def readIncrement (place : Place) : Option (Option Nat × Place) :=
  match place.next? with
  | some c =>
      if c = '0' then none
      else if c.isDigit then some (some (c.toNat - '0'.toNat), place.skip)
      else some (none, place)
  | none => some (none, place)

/-- The two indicators of a block, in either order. -/
def readBlockHeader (place : Place) : Option ((Chomping × Option Nat) × Place) := do
  let (first?, place) := readChomping place
  let (increment?, place) ← readIncrement place
  let (chomping?, place) := if first?.isSome then (first?, place) else
    if increment?.isSome then readChomping place else (none, place)
  let place := place.skipBlanks.skipComment
  if place.atEnd || place.atBreak then
    return ((chomping?.getD .clip, increment?), place.skipBreak)
  else none

/-- Empty lines and the indentation of the first line that is not empty, up to the margin if that
is known. The widest indentation is carried along. -/
def readBlockBreaks (margin? : Option Nat) :
    Nat → List Char → Nat → Place → Option ((List Char × Nat) × Place)
  | 0, _, _, _ => none
  | steps + 1, breaks, widest, place =>
      let spaces := (place.rest.takeWhile (· == ' ')).length
      let taken := match margin? with
        | some margin => min spaces (margin - place.column)
        | none => spaces
      let place := place.skipMany taken
      let widest := max widest place.column
      let left := match margin? with
        | some margin => decide (place.column < margin)
        | none => true
      if left && place.next? == some '\t' then none
      else if place.atBreak then
        let (written, behind) := place.readBreak
        readBlockBreaks margin? steps (breaks ++ written) widest behind
      else some ((breaks, widest), place)

/-- The lines of a block. A folded block joins two lines unless one of them begins with a blank. -/
def readBlockLines (literal : Bool) (margin : Nat) :
    Nat → List Char → Bool → List Char → List Char → Place →
      Option ((List Char × List Char × List Char) × Place)
  | 0, _, _, _, _, _ => none
  | steps + 1, text, afterBlank, lastBreak, breaks, place =>
      if place.column ≠ margin ∨ place.atEnd then some ((text, lastBreak, breaks), place)
      else do
        let blank := place.atBlank
        let joint :=
          if !literal && lastBreak == ['\n'] && !afterBlank && !blank then
            if breaks.isEmpty then [' '] else []
          else lastBreak
        let (line, ending) := place.span (!isBreak ·)
        let (written, behind) := ending.readBreak
        let ((breaks', _), next) ←
          readBlockBreaks (some margin) (behind.rest.length + 1) [] 0 behind
        readBlockLines literal margin steps (text ++ joint ++ breaks ++ line) blank written breaks'
          next

/-- A block whose indicator is read, in a collection indented to `indent`. -/
def readBlock (literal : Bool) (indent : Int) (place : Place) : Option (List Char × Place) := do
  let ((chomping, increment?), place) ← readBlockHeader place
  let given? := increment?.map fun increment =>
    if 0 ≤ indent then indent.toNat + increment else increment
  let ((breaks, widest), place) ←
    readBlockBreaks given? (place.rest.length + 1) [] 0 place
  let margin := given?.getD (max (max widest (indent + 1).toNat) 1)
  let ((text, lastBreak, breaks), behind) ←
    readBlockLines literal margin (place.rest.length + 1) [] false [] breaks place
  let ending := match chomping with
    | .strip => []
    | .clip => lastBreak
    | .keep => lastBreak ++ breaks
  return (text ++ ending, behind)

end Concord.Yaml
