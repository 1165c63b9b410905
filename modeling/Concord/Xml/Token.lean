namespace Concord.Xml

/-! An XML document as a list of tags.

Comments and instructions leave nothing behind, and of the text between tags it is only kept that
there is some.  A document type declaration is refused, and with it every entity that is not built
in.
-/

def isSpace (c : Char) : Bool := c == ' ' || c == '\t' || c == '\n' || c == '\r'

/-- Characters that may stand in a document at all. -/
def isAllowed (c : Char) : Bool :=
  if c.toNat < 0x20 then c == '\t' || c == '\n' || c == '\r'
  else c.toNat != 0xFFFE && c.toNat != 0xFFFF

/-- The ranges beyond ASCII of which a name may begin with any character. -/
def nameStartRanges : List (Nat × Nat) := [
  (0xC0, 0xD6), (0xD8, 0xF6), (0xF8, 0x2FF), (0x370, 0x37D), (0x37F, 0x1FFF), (0x200C, 0x200D),
  (0x2070, 0x218F), (0x2C00, 0x2FEF), (0x3001, 0xD7FF), (0xF900, 0xFDCF), (0xFDF0, 0xFFFD),
  (0x10000, 0xEFFFF)]

/-- The ranges beyond ASCII of which only the rest of a name may hold characters. -/
def nameRestRanges : List (Nat × Nat) := [(0xB7, 0xB7), (0x300, 0x36F), (0x203F, 0x2040)]

def isAmong (ranges : List (Nat × Nat)) (c : Char) : Bool :=
  ranges.any fun (first, last) => first ≤ c.toNat && c.toNat ≤ last

def isNameStart (c : Char) : Bool :=
  c.isAlpha || c == '_' || c == ':' || isAmong nameStartRanges c

def isNameChar (c : Char) : Bool :=
  isNameStart c || c.isDigit || c == '-' || c == '.' || isAmong nameRestRanges c

/-- A name as it is written; an unqualified name has the empty qualifier. -/
structure WrittenName where
  qualifier : String
  localName : String
deriving DecidableEq, Repr

structure WrittenAttribute where
  name : WrittenName
  value : String
deriving DecidableEq, Repr

inductive Token where
  | opening (name : WrittenName) (attributes : List WrittenAttribute) (closed : Bool)
  | closing (name : WrittenName)
  | characters
deriving DecidableEq, Repr

namespace Token

def skipSpace (text : List Char) : List Char := text.dropWhile isSpace

/-- The text behind an expected beginning. -/
def behind? (expected : List Char) (text : List Char) : Option (List Char) :=
  if expected.isPrefixOf text then some (text.drop expected.length) else none

/-- The text before the first occurrence of a mark, and what follows the mark. -/
def before? (mark : List Char) : List Char → Option (List Char × List Char)
  | [] => none
  | c :: rest =>
      if mark.isPrefixOf (c :: rest) then some ([], (c :: rest).drop mark.length)
      else if isAllowed c then
        (before? mark rest).map fun (inside, behind) => (c :: inside, behind)
      else none

/-- Whether a mark occurs in the text. -/
def occursIn (mark : List Char) : List Char → Bool
  | [] => false
  | c :: rest => mark.isPrefixOf (c :: rest) || occursIn mark rest

def digitsValue? (base : Nat) (digits : List Char) : Option Nat :=
  let value? (c : Char) : Option Nat :=
    if c.isDigit then some (c.toNat - '0'.toNat)
    else if base = 16 ∧ 'a' ≤ c.toLower ∧ c.toLower ≤ 'f' then
      some (c.toLower.toNat - 'a'.toNat + 10)
    else none
  if digits.isEmpty then none
  else digits.foldlM (fun value c => (value? c).map (value * base + ·)) 0

/-- A referenced character. A number of 32 bits that is no character stands for the replacement
character. -/
def ofCode? (code : Nat) : Option Char :=
  let c := if code.isValidChar then Char.ofNat code else '\ufffd'
  if code < 0x100000000 ∧ isAllowed c then some c else none

/-- The character that a reference names, without the ampersand and the semicolon. -/
def referenced? (name : List Char) : Option Char :=
  match name with
  | '#' :: 'x' :: digits => (digitsValue? 16 digits).bind ofCode?
  | '#' :: digits => (digitsValue? 10 digits).bind ofCode?
  | _ =>
      match String.ofList name with
      | "quot" => some '"'
      | "amp" => some '&'
      | "apos" => some '\''
      | "lt" => some '<'
      | "gt" => some '>'
      | _ => none

/-- Text with its references replaced; `pending` holds the reference being read, last character
first. -/
def resolve (pending : Option (List Char)) : List Char → Option (List Char)
  | [] => if pending.isNone then some [] else none
  | c :: rest =>
      match pending with
      | none =>
          if c = '&' then resolve (some []) rest else (resolve none rest).map (c :: ·)
      | some name =>
          if c = ';' then do
            let named ← referenced? name.reverse
            let behind ← resolve none rest
            return named :: behind
          else resolve (some (c :: name)) rest

/-- Every line break and tab as one blank. -/
def blanked : List Char → List Char
  | [] => []
  | '\r' :: '\n' :: rest => ' ' :: blanked rest
  | c :: rest => (if isSpace c then ' ' else c) :: blanked rest

def startsName (name : List Char) : Bool := (name.head?.map isNameStart).getD false

/-- A name with at most one colon; a qualifier may be empty. -/
def readName (text : List Char) : Option (WrittenName × List Char) :=
  let written := text.takeWhile isNameChar
  let first := written.takeWhile (· ≠ ':')
  let (qualifier, localName) :=
    match written.dropWhile (· ≠ ':') with
    | [] => ([], first)
    | _ :: second => (first, second)
  if localName.contains ':' || !startsName localName
      || (!qualifier.isEmpty && !startsName qualifier)
  then none
  else some (⟨String.ofList qualifier, String.ofList localName⟩, text.dropWhile isNameChar)

/-- A value between quotes, which holds no opening bracket. -/
def readValue (text : List Char) : Option (List Char × List Char) :=
  match text with
  | [] => none
  | quote :: rest =>
      if quote ≠ '"' ∧ quote ≠ '\'' then none
      else do
        let (value, behind) ← before? [quote] rest
        if value.contains '<' then none else return (value, behind)

/-- A name and its value, not yet normalised. -/
def readPair (text : List Char) : Option ((WrittenName × List Char) × List Char) := do
  let (name, rest) ← readName text
  let rest ← behind? ['='] (skipSpace rest)
  let (value, behind) ← readValue (skipSpace rest)
  return ((name, value), behind)

def readAttribute (text : List Char) : Option (WrittenAttribute × List Char) := do
  let ((name, raw), behind) ← readPair text
  let value ← resolve none (blanked raw)
  return (⟨name, String.ofList value⟩, behind)

/-- The attributes of a tag, each after a space, and whether the tag closes itself. -/
def readAttributes :
    Nat → List WrittenAttribute → List Char → Option (List WrittenAttribute × Bool × List Char)
  | 0, _, _ => none
  | steps + 1, read, text =>
      match skipSpace text with
      | '/' :: '>' :: behind => some (read.reverse, true, behind)
      | '>' :: behind => some (read.reverse, false, behind)
      | next =>
          if next.length = text.length then none
          else do
            let (nextRead, behind) ← readAttribute next
            readAttributes steps (nextRead :: read) behind

/-- A tag whose opening bracket is read. -/
def readTag (text : List Char) : Option (Token × List Char) :=
  match text with
  | '/' :: rest => do
      let (name, behind) ← readName rest
      let behind ← behind? ['>'] (skipSpace behind)
      return (.closing name, behind)
  | _ => do
      let (name, rest) ← readName text
      let (attributes, closed, behind) ← readAttributes (rest.length + 1) [] rest
      return (.opening name attributes closed, behind)

def commentStart : List Char := ['<', '!', '-', '-']

def cdataStart : List Char := ['<', '!', '[', 'C', 'D', 'A', 'T', 'A', '[']

def declarationStart : List Char := ['<', '?', 'x', 'm', 'l', ' ']

/-- What follows a comment whose beginning is read. -/
def skipComment (text : List Char) : Option (List Char) := do
  let (inside, behind) ← before? ['-', '-', '>'] text
  if occursIn ['-', '-'] inside || inside.getLast? = some '-' then none else return behind

/-- What follows an instruction whose `<?` is read. -/
def skipInstruction (text : List Char) : Option (List Char) :=
  if startsName text then
    (before? ['?', '>'] (text.dropWhile isNameChar)).map (·.2)
  else none

/-- Text between two tags: references are known, and no `]]>` occurs. -/
def isCharacterData (text : List Char) : Bool :=
  text.all isAllowed && !occursIn [']', ']', '>'] text && (resolve none text).isSome

/-- The tokens of the text from a place between two tags on. -/
def readAll : Nat → List Char → Option (List Token)
  | 0, _ => none
  | steps + 1, text =>
      match text with
      | [] => some []
      | '<' :: rest =>
          if commentStart.isPrefixOf text then do
            readAll steps (← skipComment (text.drop commentStart.length))
          else if cdataStart.isPrefixOf text then do
            let (_, behind) ← before? [']', ']', '>'] (text.drop cdataStart.length)
            return .characters :: (← readAll steps behind)
          else if declarationStart.isPrefixOf text then none
          else if rest.head? = some '?' then do
            readAll steps (← skipInstruction (rest.drop 1))
          else do
            let (token, behind) ← readTag rest
            return token :: (← readAll steps behind)
      | _ =>
          let data := text.takeWhile (· ≠ '<')
          let behind := text.dropWhile (· ≠ '<')
          if data.all isSpace then readAll steps behind
          else if isCharacterData data then (readAll steps behind).map (.characters :: ·)
          else none

/-- What follows a space, or the text itself at the end of a declaration. -/
def skipDeclarationSpace (text : List Char) : Option (List Char) :=
  let next := skipSpace text
  if next.length < text.length || ['?', '>'].isPrefixOf text then some next else none

/-- A pair of the declaration, if it stands here. -/
def skipDeclared (name : String) (text : List Char) : Option (List Char) :=
  if name.toList.isPrefixOf text then do
    let (_, behind) ← readPair text
    skipDeclarationSpace behind
  else some text

/-- What follows the declaration of a version; an encoding and a word on independence may stand
behind it. -/
def skipDeclaration (text : List Char) : Option (List Char) := do
  let text := skipSpace (text.drop declarationStart.length)
  if !"version".toList.isPrefixOf text then none
  else
    let text ← skipDeclared "version" text
    let text ← skipDeclared "encoding" text
    let text ←
      if "standalone".toList.isPrefixOf text then (readPair text).map (·.2) else some text
    behind? ['?', '>'] (skipSpace text)

/-- The tags of a document, behind a byte order mark and a declaration. -/
def ofText? (document : String) : Option (List Token) := do
  let text := document.toList
  let text := (behind? ['\ufeff'] text).getD text
  let text ← if declarationStart.isPrefixOf text then skipDeclaration text else some text
  readAll (text.length + 1) text

end Token

end Concord.Xml
