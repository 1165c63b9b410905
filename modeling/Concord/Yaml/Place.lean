namespace Concord.Yaml

/-! A place in YAML text, and the classes of characters that its structure depends on. -/

def isBreak (c : Char) : Bool :=
  c == '\r' || c == '\n' || c == '\x85' || c == '\u2028' || c == '\u2029'

def isBlank (c : Char) : Bool := c == ' ' || c == '\t'

def isGap (c : Char) : Bool := isBlank c || isBreak c

/-- Characters of anchors, directives and tag handles. -/
def isWordChar (c : Char) : Bool := c.isAlphanum || c == '_' || c == '-'

/-- Characters that may stand in a document at all. -/
def isAllowed (c : Char) : Bool :=
  let code := c.toNat
  c == '\t' || c == '\n' || c == '\r' || (0x20 ≤ code && code ≤ 0x7E) || code == 0x85 ||
    (0xA0 ≤ code && code ≤ 0xFFFD) || 0x10000 ≤ code

/-- What is left of a text, and how many characters, lines and characters of the line lie before
it. -/
structure Place where
  rest : List Char
  index : Nat
  line : Nat
  column : Nat

namespace Place

def start (text : String) : Place := ⟨text.toList, 0, 0, 0⟩

def next? (place : Place) : Option Char := place.rest.head?

/-- The character at a distance, or nothing behind the end. -/
def ahead? (place : Place) (distance : Nat) : Option Char := place.rest[distance]?

/-- Whether a gap or the end of the text follows at a distance. -/
def gapAt (place : Place) (distance : Nat) : Bool := ((place.ahead? distance).map isGap).getD true

def atEnd (place : Place) : Bool := place.rest.isEmpty

def atBlank (place : Place) : Bool := (place.next?.map isBlank).getD false

def atBreak (place : Place) : Bool := (place.next?.map isBreak).getD false

def skip (place : Place) : Place :=
  match place.rest with
  | [] => place
  | _ :: rest => ⟨rest, place.index + 1, place.line, place.column + 1⟩

def skipMany (place : Place) (count : Nat) : Place :=
  ⟨place.rest.drop count, place.index + count, place.line, place.column + count⟩

/-- The place behind a line break, and the break as text: every break but the two Unicode
separators counts as a line feed. -/
def readBreak (place : Place) : List Char × Place :=
  match place.rest with
  | '\r' :: '\n' :: rest => (['\n'], ⟨rest, place.index + 2, place.line + 1, 0⟩)
  | c :: rest =>
      if isBreak c then
        (if c == '\u2028' || c == '\u2029' then [c] else ['\n'],
          ⟨rest, place.index + 1, place.line + 1, 0⟩)
      else ([], place)
  | [] => ([], place)

def skipBreak (place : Place) : Place := place.readBreak.2

/-- Characters of a class that holds no line break. -/
def span (place : Place) (p : Char → Bool) : List Char × Place :=
  let run := place.rest.takeWhile p
  (run, place.skipMany run.length)

def skipBlanks (place : Place) : Place := (place.span isBlank).2

def skipComment (place : Place) : Place :=
  if place.next? = some '#' then (place.span (!isBreak ·)).2 else place

/-- Whether a line begins here with three marks that stand alone. -/
def atMarker (place : Place) (mark : Char) : Bool :=
  place.column == 0 && (place.rest.take 3 == [mark, mark, mark]) && place.gapAt 3

def atDocumentMarker (place : Place) : Bool := place.atMarker '-' || place.atMarker '.'

end Place

end Concord.Yaml
