import Concord.Yaml.Scalar

namespace Concord.Yaml

/-! The tokens of YAML text, and how the ones that depend on no indentation are read. -/

/-- A tag as it is written. A verbatim tag has the empty handle. -/
structure WrittenTag where
  handle : List Char
  suffix : List Char
deriving DecidableEq, Repr

inductive Token where
  | version (major minor : Nat)
  | handle (name : List Char) (expansion : List Char)
  | documentStart
  | documentEnd
  | blockSequence
  | blockMapping
  | blockEnd
  | openSequence
  | closeSequence
  | openMapping
  | closeMapping
  | blockEntry
  | flowEntry
  | key
  | value
  | alias (name : List Char)
  | anchor (name : List Char)
  | tag (written : WrittenTag)
  | scalar (style : Style) (text : List Char)
deriving DecidableEq, Repr

namespace Token

def readAnchorName (place : Place) : Option (List Char × Place) :=
  let (name, behind) := place.span isWordChar
  let ended := behind.gapAt 0 ||
    (behind.next?.map (['?', ':', ',', ']', '\x7d', '%', '@', '\x60'].contains ·)).getD false
  if name.isEmpty || !ended then none else some (name, behind)

def isTagChar (verbatim : Bool) (c : Char) : Bool :=
  isWordChar c ||
    [';', '/', '?', ':', '@', '&', '=', '+', '$', '.', '!', '~', '*', '\'', '(', ')'].contains c ||
    (verbatim && [',', '[', ']'].contains c)

/-- An octet written as a percent sign and two hexadecimal digits. -/
def readOctet (place : Place) : Option (Nat × Place) :=
  match place.rest with
  | '%' :: high :: low :: _ => do
      return ((← hexValue? high) * 16 + (← hexValue? low), place.skipMany 3)
  | _ => none

/-- The octets that follow the first one of a character. -/
def readFurtherOctets : Nat → Nat → Place → Option (Nat × Place)
  | 0, code, place => some (code, place)
  | count + 1, code, place => do
      let (octet, behind) ← readOctet place
      if octet / 64 = 2 then readFurtherOctets count (code * 64 + octet % 64) behind else none

/-- A character written as the octets that encode it. -/
def readEncoded (place : Place) : Option (Char × Place) := do
  let (first, behind) ← readOctet place
  let (count, bits) ←
    if first < 0x80 then some (0, first)
    else if first / 32 = 6 then some (1, first % 32)
    else if first / 16 = 14 then some (2, first % 16)
    else if first / 8 = 30 then some (3, first % 8)
    else none
  let (code, behind) ← readFurtherOctets count bits behind
  return (Char.ofNat code, behind)

/-- The characters of a tag, last one first. -/
def readTagChars (verbatim : Bool) : Nat → List Char → Place → Option (List Char × Place)
  | 0, read, place => some (read, place)
  | steps + 1, read, place =>
      match place.next? with
      | some '%' => do
          let (c, behind) ← readEncoded place
          readTagChars verbatim steps (c :: read) behind
      | some c =>
          if isTagChar verbatim c then readTagChars verbatim steps (c :: read) place.skip
          else some (read, place)
      | none => some (read, place)

/-- The text of a tag behind what is read of it; the two together are not empty. -/
def readTagText (verbatim : Bool) (head : List Char) (place : Place) :
    Option (List Char × Place) := do
  let (read, behind) ← readTagChars verbatim (place.rest.length + 1) [] place
  if head.isEmpty && read.isEmpty then none else return (head.drop 1 ++ read.reverse, behind)

/-- An exclamation mark, a word and a second mark, if there is one. -/
def readHandle (place : Place) : Option (List Char × Place) :=
  if place.next? ≠ some '!' then none
  else
    let (word, behind) := place.skip.span isWordChar
    if behind.next? = some '!' then some ('!' :: word ++ ['!'], behind.skip)
    else some ('!' :: word, behind)

def isHandle (written : List Char) : Bool := 2 ≤ written.length && written.getLast? == some '!'

/-- A tag at its mark: a verbatim one, one with a handle, or a local one. -/
def readTag (inFlow : Bool) (place : Place) : Option (WrittenTag × Place) := do
  let (written, behind) ←
    if place.ahead? 1 = some '<' then do
      let (text, behind) ← readTagText true [] (place.skipMany 2)
      if behind.next? = some '>' then some (WrittenTag.mk [] text, behind.skip) else none
    else do
      let (first, behind) ← readHandle place
      if isHandle first then do
        let (suffix, behind) ← readTagText false [] behind
        some (⟨first, suffix⟩, behind)
      else do
        let (suffix, behind) ← readTagText false first behind
        some (if suffix.isEmpty then ⟨[], ['!']⟩ else ⟨['!'], suffix⟩, behind)
  if (inFlow && behind.next? == some ',') || behind.gapAt 0 then return (written, behind)
  else none

/-- A number of a version, of at most nine digits. -/
def readVersionNumber (place : Place) : Option (Nat × Place) :=
  let (digits, behind) := place.span Char.isDigit
  if digits.isEmpty || 9 < digits.length then none
  else some (digits.foldl (fun value c => value * 10 + (c.toNat - '0'.toNat)) 0, behind)

def readVersion (place : Place) : Option (Token × Place) := do
  let (major, behind) ← readVersionNumber place.skipBlanks
  if behind.next? ≠ some '.' then none
  else
    let (minor, behind) ← readVersionNumber behind.skip
    return (.version major minor, behind)

def readHandleDirective (place : Place) : Option (Token × Place) := do
  let (name, behind) ← readHandle place.skipBlanks
  if (name ≠ ['!'] ∧ !isHandle name) ∨ !behind.atBlank then none
  else
    let (expansion, behind) ← readTagText true [] behind.skipBlanks
    if behind.gapAt 0 then return (.handle name expansion, behind) else none

/-- A directive whose percent sign is read, with the rest of its line. -/
def readDirective (place : Place) : Option (Token × Place) := do
  let (name, behind) := place.span isWordChar
  if !behind.gapAt 0 then none
  else
    let (token, behind) ←
      match String.ofList name with
      | "YAML" => readVersion behind
      | "TAG" => readHandleDirective behind
      | _ => none
    let behind := behind.skipBlanks.skipComment
    if behind.atEnd || behind.atBreak then return (token, behind.skipBreak) else none

end Token

end Concord.Yaml
