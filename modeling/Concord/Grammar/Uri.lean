import Concord.Grammar.Host

namespace Concord.Grammar

/-! References to resources: their grammar, how one is read in the light of another, and a normal
form in which those are equal that differ only in spelling.
-/

structure Authority where
  user? : Option (List Char)
  host : List Char
  port? : Option (List Char)
deriving DecidableEq, Repr

/-- A reference in its parts; with a scheme it stands for itself. -/
structure Uri where
  scheme? : Option (List Char)
  authority? : Option Authority
  path : List Char
  query? : Option (List Char)
  fragment? : Option (List Char)
deriving DecidableEq, Repr

namespace Uri

def isUnreserved (c : Char) : Bool := c.isAlphanum || ['-', '.', '_', '~'].contains c

def isDelimiter (c : Char) : Bool := "!$&'()*+,;=".toList.contains c

def isUserChar (c : Char) : Bool := isUnreserved c || isDelimiter c || c == ':'

def isPathChar (c : Char) : Bool := isUserChar c || c == '@' || c == '/'

def isQueryChar (c : Char) : Bool := isPathChar c || c == '?'

/-- Characters of a class, and any byte as a percent sign with two hexadecimal digits. -/
def isEncoded (allowed : Char → Bool) : List Char → Bool
  | [] => true
  | '%' :: high :: low :: rest => isHexDigit high && isHexDigit low && isEncoded allowed rest
  | c :: rest => c != '%' && allowed c && isEncoded allowed rest

def isScheme (text : List Char) : Bool :=
  (text.head?.map Char.isAlpha).getD false &&
    text.all fun c => c.isAlphanum || ['+', '-', '.'].contains c

/-- An address of a kind that is yet to come: a version, a point and characters. -/
def isFutureAddress (text : List Char) : Bool :=
  match text with
  | mark :: rest =>
      let version := rest.takeWhile isHexDigit
      let address := (rest.drop version.length).drop 1
      (mark == 'v' || mark == 'V') && version != [] && rest[version.length]? == some '.' &&
        address != [] && address.all isUserChar
  | [] => false

def isHost (text : List Char) : Bool :=
  match text with
  | '[' :: rest =>
      rest.getLast? == some ']' && (isAddress6 rest.dropLast || isFutureAddress rest.dropLast)
  | _ => isEncoded (fun c => isUnreserved c || isDelimiter c) text

/-- The texts before and after the first occurrence of a character; without one, nothing is
after it. -/
def cut (mark : Char) (text : List Char) : List Char × Option (List Char) :=
  match text.dropWhile (· ≠ mark) with
  | _ :: rest => (text.takeWhile (· ≠ mark), some rest)
  | [] => (text, none)

/-- A port goes behind the last colon that is not part of an address in brackets. -/
def cutPort (text : List Char) : List Char × Option (List Char) :=
  let backwards := text.reverse
  let digits := backwards.takeWhile Char.isDigit
  match backwards.drop digits.length with
  | ':' :: host => (host.reverse, some digits.reverse)
  | _ => (text, none)

def cutAuthority? (text : List Char) : Option Authority :=
  let (user?, rest) :=
    match cut '@' text with
    | (user, some rest) => (some user, rest)
    | (rest, none) => (none, rest)
  let (host, port?) := cutPort rest
  if (user?.map (isEncoded isUserChar)).getD true && isHost host then
    some ⟨user?, host, port?⟩
  else none

/-- The scheme, if a colon comes before what would end it, and the rest. -/
def cutScheme? (text : List Char) : Option (Option (List Char) × List Char) :=
  let start := text.takeWhile fun c => c != ':' && c != '/'
  match text.drop start.length with
  | ':' :: rest => if isScheme start then some (some start, rest) else none
  | _ => some (none, text)

def ofChars? (text : List Char) : Option Uri := do
  let (text, fragment?) := cut '#' text
  let (text, query?) := cut '?' text
  let (scheme?, text) ← cutScheme? text
  let (authority?, path) ←
    match text with
    | '/' :: '/' :: rest => do
        let authority ← cutAuthority? (rest.takeWhile (· ≠ '/'))
        pure (some authority, rest.dropWhile (· ≠ '/'))
    | _ => pure (none, text)
  if isEncoded isPathChar path && (query?.map (isEncoded isQueryChar)).getD true &&
      (fragment?.map (isEncoded isQueryChar)).getD true then
    some ⟨scheme?, authority?, path, query?, fragment?⟩
  else none

def ofText? (text : String) : Option Uri := ofChars? text.toList

def isReference (text : List Char) : Bool := (ofChars? text).isSome

def isAbsolute (text : List Char) : Bool := ((ofChars? text).bind (·.scheme?)).isSome

/-- Letters and signs beyond ASCII that may stand in a reference; the last two code points of
every plane are none, nor is what has a private or a special use. -/
def isForeign (c : Char) : Bool :=
  let code := c.toNat
  if code < 0x10000 then
    (0xA0 ≤ code && code ≤ 0xD7FF) || (0xF900 ≤ code && code ≤ 0xFDCF) ||
      (0xFDF0 ≤ code && code ≤ 0xFFEF)
  else code % 0x10000 ≤ 0xFFFD && (code < 0xE0000 || 0xE1000 ≤ code) && code < 0xF0000

/-- Characters of private use, which may only stand in a query. -/
def isPrivate (c : Char) : Bool :=
  let code := c.toNat
  (0xE000 ≤ code && code ≤ 0xF8FF) || (0xF0000 ≤ code && code % 0x10000 ≤ 0xFFFD)

/-- The bytes of a character, each behind a percent sign. -/
def encodedChar (c : Char) : List Char :=
  (String.singleton c).toUTF8.toList.flatMap fun byte =>
    ['%', Nat.digitChar (byte.toNat / 16), Nat.digitChar (byte.toNat % 16)]

/-- The characters of a reference in ASCII: foreign ones become bytes, within the query private
ones too. -/
def inAscii (inQuery : Bool) : List Char → List Char
  | [] => []
  | '#' :: rest =>
      '#' :: rest.flatMap fun c => if isForeign c then encodedChar c else [c]
  | c :: rest =>
      (if isForeign c || (inQuery && isPrivate c) then encodedChar c else [c]) ++
        inAscii (inQuery || c == '?') rest

def isForeignReference (text : List Char) : Bool := isReference (inAscii false text)

def isForeignAbsolute (text : List Char) : Bool := isAbsolute (inAscii false text)

/-- A path taken step by step: a dot stays where it is and two dots go back. -/
def settle : List (List Char) → List (List Char) → List (List Char)
  | back, [] => back.reverse
  | back, [['.']] => ([] :: back).reverse
  | back, [['.', '.']] => ([] :: back.drop 1).reverse
  | back, ['.'] :: rest => settle back rest
  | back, ['.', '.'] :: rest => settle (back.drop 1) rest
  | back, step :: rest => settle (step :: back) rest

def withoutDots (path : List Char) : List Char :=
  match path with
  | '/' :: rest => '/' :: ['/'].intercalate (settle [] (pieces '/' rest))
  | _ => path

/-- The path of a reference that is taken from where another one stands. -/
def mergePath (base : Uri) (path : List Char) : List Char :=
  if base.authority?.isSome && base.path.isEmpty then '/' :: path
  else (base.path.reverse.dropWhile (· ≠ '/')).reverse ++ path

/-- What a reference means in a document. Within a document whose own name has no places above
one another, a reference that is not absolute can only name a part of it. -/
def resolve? (base reference : Uri) : Option Uri :=
  if reference.scheme?.isSome then some { reference with path := withoutDots reference.path }
  else if base.authority?.isNone && base.path.head? != some '/' &&
      (reference.authority?.isSome || !reference.path.isEmpty || reference.query?.isSome) then none
  else if reference.authority?.isSome then
    some { reference with scheme? := base.scheme?, path := withoutDots reference.path }
  else if reference.path.isEmpty then
    some { base with
      query? := reference.query?.or base.query?
      fragment? := reference.fragment? }
  else
    let path :=
      if reference.path.head? = some '/' then reference.path
      else mergePath base reference.path
    some { reference with
      scheme? := base.scheme?
      authority? := base.authority?
      path := withoutDots path }

def hexValue (c : Char) : Nat :=
  if c.isDigit then c.toNat - '0'.toNat else c.toUpper.toNat - 'A'.toNat + 10

/-- Encoded bytes with capital digits, and unreserved characters as themselves. -/
def normalEncoding : List Char → List Char
  | '%' :: high :: low :: rest =>
      let c := Char.ofNat (16 * hexValue high + hexValue low)
      (if isUnreserved c then [c] else ['%', high.toUpper, low.toUpper]) ++ normalEncoding rest
  | c :: rest => c :: normalEncoding rest
  | [] => []

def normal (uri : Uri) : Uri where
  scheme? := uri.scheme?.map (·.map Char.toLower)
  authority? := uri.authority?.map fun authority =>
    { user? := authority.user?.map normalEncoding
      host := normalEncoding (authority.host.map Char.toLower)
      port? := authority.port?.filter (· != []) }
  path :=
    let path := normalEncoding uri.path
    if uri.scheme?.isSome then withoutDots path else path
  query? := uri.query?.map normalEncoding
  fragment? := uri.fragment?.map normalEncoding

def withoutFragment (uri : Uri) : Uri := { uri with fragment? := none }

private def marked (mark : Char) (text? : Option (List Char)) : List Char :=
  (text?.map (mark :: ·)).getD []

def toChars (uri : Uri) : List Char :=
  (uri.scheme?.map (· ++ [':'])).getD [] ++
    (uri.authority?.map fun authority =>
      ['/', '/'] ++ (authority.user?.map (· ++ ['@'])).getD [] ++ authority.host ++
        marked ':' authority.port?).getD [] ++
    uri.path ++ marked '?' uri.query? ++ marked '#' uri.fragment?

def toText (uri : Uri) : String := String.ofList uri.toChars

end Uri

end Concord.Grammar
