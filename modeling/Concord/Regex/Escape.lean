import Concord.Regex.Reading

namespace Concord.Regex

/-! Reading escapes: a backslash and what stands behind it. -/

inductive Escape where
  | literal (c : Char)
  | set (chars : Text.CharSet)
  | anchor (place : Anchor)

/-- So many characters, with layout between and behind them. -/
def takeSpaced (flags : Flags) : Nat → List Char → Option (List Char × List Char)
  | 0, text => some ([], text)
  | _ + 1, [] => none
  | count + 1, c :: rest =>
      (takeSpaced flags count (skipIgnored flags rest)).map fun (taken, behind) =>
        (c :: taken, behind)

/-- The characters up to a closing brace, with layout between them; what stands behind the brace.
-/
def takeBraced (flags : Flags) : Nat → List Char → Option (List Char × List Char)
  | 0, _ => none
  | steps + 1, text =>
      match skipIgnored flags text with
      | [] => none
      | '\x7d' :: behind => some ([], behind)
      | c :: rest =>
          (takeBraced flags steps rest).map fun (taken, behind) => (c :: taken, behind)

/-- A code point in braces or with a fixed number of digits, of which two name a byte: without
Unicode it must be one of ASCII. -/
def readHex (flags : Flags) (digits : Nat) (text : List Char) :
    Except Fault (Escape × List Char) := do
  match skipIgnored flags text with
  | '\x7b' :: rest =>
      let (taken, behind) ← orMalformed (takeBraced flags (rest.length + 1) rest)
      return (.literal (← orMalformed (charOfHex? taken)), behind)
  | text =>
      let (taken, behind) ← orMalformed (takeSpaced flags digits text)
      let c ← orMalformed (charOfHex? taken)
      if digits == 2 && !flags.unicode && 0x7F < c.toNat then throw .malformed
      else return (.literal c, behind)

/-- Where a property's name ends and its value begins, and whether the value is denied. -/
def splitProperty (text : List Char) : Option (List Char × Bool × List Char) :=
  let splitAt (mark : Char) : Option (List Char × Bool × List Char) :=
    if text.contains mark then
      some (text.takeWhile (· ≠ mark), false, (text.dropWhile (· ≠ mark)).drop 1)
    else none
  let rec denied : List Char → List Char → Option (List Char × Bool × List Char)
    | name, '!' :: '=' :: value => some (name.reverse, true, value)
    | name, c :: rest => denied (c :: name) rest
    | _, [] => none
  denied [] text <|> splitAt ':' <|> splitAt '='

/-- The set of a property that is named in braces, perhaps with a value. -/
def propertySet? (text : List Char) : Option Text.CharSet :=
  match splitProperty text with
  | some (name, denied, value) =>
      (Text.Property.valued? (String.ofList name) (String.ofList value)).map
        (.complementIf denied)
  | none => Text.Property.named? (String.ofList text)

/-- A property behind its letter. -/
def readProperty (flags : Flags) (negated : Bool) (text : List Char) :
    Except Fault (Escape × List Char) := do
  if !flags.unicode then throw .malformed
  else
    let (name, behind) ←
      match skipIgnored flags text with
      | [] => throw .malformed
      | '\x7b' :: rest => orMalformed (takeBraced flags (rest.length + 1) rest)
      | c :: behind => pure ([c], behind)
    let chars ← orMalformed (propertySet? name)
    return (.set (.complementIf negated (flags.fold chars)), behind)

def asciiDigits : Text.CharSet := .between '0' '9'

def asciiWords : Text.CharSet :=
  .union (.union (.between 'a' 'z') (.between 'A' 'Z')) (.union asciiDigits (.one '_'))

def asciiBlanks : Text.CharSet := .ofList [' ', '\t', '\n', '\r', '\x0b', '\x0c']

/-- The blanks that scripts of the web know. -/
def webBlanks : Text.CharSet :=
  .ofList [' ', '\t', '\n', '\r', '\x0b', '\x0c', '\xa0', '\ufeff', '\u2003', '\u2029']

/-- The class of a small letter. -/
def letterClass? (dialect : Dialect) (flags : Flags) (c : Char) : Option Text.CharSet :=
  let choose (web ascii worldwide : Text.CharSet) : Text.CharSet :=
    if dialect.asciiClasses then web else if flags.unicode then worldwide else ascii
  match c with
  | 'd' => some (choose asciiDigits asciiDigits (.runs Text.Category.decimalNumber))
  | 'w' => some (choose asciiWords asciiWords Text.wordSet)
  | 's' => some (choose webBlanks asciiBlanks Text.whiteSpaceSet)
  | _ => none

/-- The class of a letter; a capital stands for the rest of all characters, which are not only
those of ASCII. -/
def readLetterClass (dialect : Dialect) (flags : Flags) (c : Char) :
    Option (Except Fault Text.CharSet) :=
  match letterClass? dialect flags c with
  | some chars => some (.ok chars)
  | none =>
      if !c.isUpper then none
      else
        (letterClass? dialect flags c.toLower).map fun chars =>
          if flags.unicode then .ok (.complement chars) else .error .malformed

/-- Whether a character may be escaped to stand for itself. -/
def standsForItself (c : Char) : Bool :=
  c.toNat < 0x80 && !c.isAlphanum && c != '<' && c != '>'

/-- A word boundary with a name in braces. Braces around anything else are left to be read as a
count. -/
def readBoundary (flags : Flags) (text : List Char) : Except Fault (Escape × List Char) :=
  let isNameChar (c : Char) : Bool := c.isAlpha || c == '-'
  match text with
  | '\x7b' :: rest =>
      match skipIgnored flags rest with
      | [] => .error .malformed
      | c :: behind =>
          if !isNameChar c then .ok (.anchor .wordBoundary, text)
          else do
            let (name, behind) ← orMalformed (takeBraced flags (behind.length + 2) (c :: behind))
            match String.ofList name with
            | "start" => return (.anchor .wordStart, behind)
            | "end" => return (.anchor .wordEnd, behind)
            | "start-half" => return (.anchor .wordStartHalf, behind)
            | "end-half" => return (.anchor .wordEndHalf, behind)
            | _ => throw .malformed
  | _ => .ok (.anchor .wordBoundary, text)

/-- An escape whose backslash is read. -/
def readEscape (dialect : Dialect) (flags : Flags) (text : List Char) :
    Except Fault (Escape × List Char) :=
  match text with
  | [] => .error .malformed
  | c :: rest =>
      let literal (named : Char) : Except Fault (Escape × List Char) := .ok (.literal named, rest)
      let anchor (place : Anchor) : Except Fault (Escape × List Char) := .ok (.anchor place, rest)
      match readLetterClass dialect flags c with
      | some chars => chars.map fun chars => (.set chars, rest)
      | none =>
          match c with
          | 'x' => readHex flags 2 rest
          | 'u' => readHex flags 4 rest
          | 'U' => readHex flags 8 rest
          | 'p' => readProperty flags false rest
          | 'P' => readProperty flags true rest
          | 'a' => literal '\x07'
          | 'f' => literal '\x0c'
          | 't' => literal '\t'
          | 'n' => literal '\n'
          | 'r' => literal '\r'
          | 'v' => literal '\x0b'
          | 'A' => anchor .textStart
          | 'z' => anchor .textEnd
          | 'b' => readBoundary flags rest
          | 'B' => anchor .noWordBoundary
          | '<' => anchor .wordStart
          | '>' => anchor .wordEnd
          | 'c' =>
              match dialect.controlEscapes, rest with
              | true, letter :: behind =>
                  if letter.isAlpha then .ok (.literal (Char.ofNat (letter.toNat % 32)), behind)
                  else .error .malformed
              | _, _ => .error .malformed
          | _ => if standsForItself c then literal c else .error .malformed

end Concord.Regex
