import Concord.Regex.Class

namespace Concord.Regex

/-! Reading regular expressions that are matched in one pass: they have no conditions on the text
around a place and do not refer back.

Beside what it means, an expression has a depth: how many repetitions, groups, sequences and
choices of several parts, and classes lie inside one another.
-/

/-- The flags of a group up to its colon or its end: each letter once, and one hyphen, which is
followed by a letter. What stands behind begins with the colon or the end. -/
def readFlags (flags : Flags) : List Char → List Char → Except Fault (Flags × List Char)
  | _, [] => .error .malformed
  | seen, c :: rest =>
      if c = ':' ∨ c = ')' then
        if seen.head? = some '-' then .error .malformed else .ok (flags, c :: rest)
      else if seen.contains c then .error .malformed
      else if c = '-' then readFlags flags (c :: seen) rest
      else
        match flags.set? c (!seen.contains '-') with
        | some changed => readFlags changed (c :: seen) rest
        | none => .error .malformed

def startsGroupName (c : Char) : Bool := c == '_' || Text.isLetter c

def isGroupNameChar (c : Char) : Bool :=
  startsGroupName c || c == '.' || c == '[' || c == ']' || Text.isNumber c

def readGroupName (text : List Char) : Except Fault (List Char × List Char) :=
  let name := text.takeWhile isGroupNameChar
  match name, text.dropWhile isGroupNameChar with
  | first :: _, '>' :: behind =>
      if startsGroupName first then .ok (name, behind) else .error .malformed
  | _, _ => .error .malformed

inductive Opening where
  | group
  | named (name : List Char)
  | unnumbered (flags : Flags)
  /-- No group: the flags hold up to the end of the group around them. -/
  | setting (flags : Flags)

def readOpening (flags : Flags) (text : List Char) : Except Fault (Opening × List Char) := do
  let named (rest : List Char) : Except Fault (Opening × List Char) := do
    let (name, behind) ← readGroupName rest
    return (.named name, behind)
  match text with
  | '?' :: '=' :: _ | '?' :: '!' :: _ | '?' :: '<' :: '=' :: _ | '?' :: '<' :: '!' :: _ =>
      throw .looksAround
  | '?' :: 'P' :: '<' :: rest => named rest
  | '?' :: '<' :: rest => named rest
  | '?' :: rest =>
      let (changed, behind) ← readFlags flags [] rest
      match behind with
      | ':' :: behind => return (.unnumbered changed, behind)
      | _ :: behind =>
          if rest.head? = some ')' then throw .malformed else return (.setting changed, behind)
      | [] => throw .malformed
  | _ => return (.group, text)

/-- The digits of a number, with layout between them. -/
def takeDigits (flags : Flags) : Nat → List Char → List Char × List Char
  | 0, text => ([], text)
  | steps + 1, text =>
      match text with
      | c :: rest =>
          if c.isDigit then
            let (digits, behind) := takeDigits flags steps (skipIgnored flags rest)
            (c :: digits, behind)
          else ([], text)
      | [] => ([], [])

def skipBlanks (flags : Flags) (text : List Char) : List Char :=
  skipIgnored flags (text.dropWhile Text.isWhiteSpace)

/-- A number of 32 bits with blanks around it. -/
def readCount (flags : Flags) (text : List Char) : Option Nat × List Char :=
  let text := text.dropWhile Text.isWhiteSpace
  let (digits, behind) := takeDigits flags text.length text
  let value := digits.foldl (fun value c => value * 10 + (c.toNat - '0'.toNat)) 0
  (if digits.isEmpty || 0x100000000 ≤ value then none else some value, skipBlanks flags behind)

/-- The counts of a repetition whose opening brace is read. -/
def readCounts (flags : Flags) (text : List Char) :
    Except Fault ((Nat × Option Nat) × List Char) := do
  let (least?, rest) := readCount flags (skipIgnored flags text)
  let least ← orMalformed least?
  match rest with
  | '\x7d' :: behind => return ((least, some least), behind)
  | ',' :: rest =>
      match skipIgnored flags rest with
      | '\x7d' :: behind => return ((least, none), behind)
      | rest =>
          let (most?, rest) := readCount flags rest
          let most ← orMalformed most?
          match rest with
          | '\x7d' :: behind =>
              if least ≤ most then return ((least, some most), behind) else throw .malformed
          | _ => throw .malformed
  | _ => throw .malformed

/-- The mark of a reluctant repetition, which matches the same texts. -/
def skipReluctance (text : List Char) : List Char :=
  match text with
  | '?' :: behind => behind
  | _ => text

structure Nested where
  expression : Regex
  depth : Nat

/-- A part of a branch: an expression, or a setting of flags. -/
inductive Piece where
  | part (nested : Nested)
  | setting

namespace Piece

def depth : Piece → Nat
  | .part nested => nested.depth
  | .setting => 0

def expression? : Piece → Option Regex
  | .part nested => some nested.expression
  | .setting => none

end Piece

/-- The depth of several parts, which is one more than that of the deepest; a single part is as
deep as it is. -/
def depthOfParts (depths : List Nat) : Nat :=
  match depths with
  | [] => 0
  | [depth] => depth
  | _ => depths.foldl max 0 + 1

/-- A branch by its pieces, the last one first. -/
def ofPieces (pieces : List Piece) : Nested :=
  ⟨sequence (pieces.reverse.filterMap Piece.expression?), depthOfParts (pieces.map Piece.depth)⟩

/-- A choice between branches, the last one first. -/
def ofBranches (last : Nested) (earlier : List Nested) : Nested :=
  ⟨eitherOf last.expression (earlier.map Nested.expression),
    depthOfParts (last.depth :: earlier.map Nested.depth)⟩

/-- The last piece repeated. There must be one, and it must not be a mere setting. -/
def repeatLast (least : Nat) (most? : Option Nat) (pieces : List Piece) :
    Except Fault (List Piece) :=
  match pieces with
  | .part ⟨expression, depth⟩ :: earlier =>
      .ok (.part ⟨.repeated least most? expression, depth + 1⟩ :: earlier)
  | _ => .error .malformed

/-- A single item that is neither a group nor a class. -/
def readPrimitive (dialect : Dialect) (flags : Flags) (text : List Char) :
    Except Fault (Regex × List Char) :=
  let literal (c : Char) : Regex :=
    .set (if flags.unicode || c.toNat ≤ 0x7F then flags.fold (.one c) else .one c)
  match text with
  | [] => .error .malformed
  | '.' :: rest =>
      if !flags.unicode then .error .malformed
      else .ok (.set (if flags.dotAll then .all else .complement (.one '\n')), rest)
  | '^' :: rest => .ok (.anchor (if flags.multiLine then .lineStart else .textStart), rest)
  | '$' :: rest => .ok (.anchor (if flags.multiLine then .lineEnd else .textEnd), rest)
  | '\\' :: rest => do
      let (escape, behind) ← readEscape dialect flags rest
      match escape with
      | .literal c => return (literal c, behind)
      | .set chars => return (.set chars, behind)
      | .anchor place => return (.anchor place, behind)
  | c :: rest => .ok (literal c, rest)

structure Progress where
  rest : List Char
  /-- The names of groups so far. -/
  names : List (List Char)

/-- The branches of a group up to its end, which is left to be read. -/
def readBranches (dialect : Dialect) :
    Nat → Flags → List Nested → List Piece → Progress → Except Fault (Nested × Progress)
  | 0, _, _, _, _ => .error .malformed
  | steps + 1, flags, branches, pieces, progress =>
      let text := skipIgnored flags progress.rest
      let next (pieces : List Piece) (rest : List Char) : Except Fault (Nested × Progress) :=
        readBranches dialect steps flags branches pieces { progress with rest }
      let repeatTo (least : Nat) (most? : Option Nat) (rest : List Char) :
          Except Fault (Nested × Progress) := do
        next (← repeatLast least most? pieces) (skipReluctance rest)
      let finish (_ : Unit) : Except Fault (Nested × Progress) :=
        .ok (ofBranches (ofPieces pieces) branches, { progress with rest := text })
      match text with
      | [] => finish ()
      | ')' :: _ => finish ()
      | '|' :: rest =>
          readBranches dialect steps flags (ofPieces pieces :: branches) []
            { progress with rest }
      | '*' :: rest => repeatTo 0 none rest
      | '+' :: rest => repeatTo 1 none rest
      | '?' :: rest => repeatTo 0 (some 1) rest
      | '\x7b' :: rest => do
          let ((least, most?), behind) ← readCounts flags rest
          repeatTo least most? (skipIgnored flags behind)
      | '[' :: rest => do
          let (read, behind) ← readClass dialect flags (2 * rest.length + 2) rest
          next (.part ⟨.set read.chars, read.depth⟩ :: pieces) behind
      | '(' :: rest => do
          let (opening, inside) ← readOpening flags (skipIgnored flags rest)
          let group (flags' : Flags) (names : List (List Char)) (make : Regex → Regex) :
              Except Fault (Nested × Progress) := do
            let (body, progress) ← readBranches dialect steps flags' [] [] ⟨inside, names⟩
            match progress.rest with
            | ')' :: behind =>
                readBranches dialect steps flags branches
                  (.part ⟨make body.expression, body.depth + 1⟩ :: pieces)
                  { progress with rest := behind }
            | _ => throw .malformed
          match opening with
          | .setting flags' =>
              readBranches dialect steps flags' branches (.setting :: pieces)
                { progress with rest := inside }
          | .unnumbered flags' => group flags' progress.names id
          | .group => group flags progress.names .group
          | .named name =>
              if progress.names.contains name then throw .malformed
              else group flags (name :: progress.names) .group
      | _ => do
          let (item, behind) ← readPrimitive dialect flags text
          next (.part ⟨item, 0⟩ :: pieces) behind

def read (dialect : Dialect) (text : String) : Except Fault Nested := do
  let chars := text.toList
  let (nested, progress) ←
    readBranches dialect (chars.length + 1) .standard [] [] ⟨chars, []⟩
  if progress.rest.isEmpty then return nested else throw .malformed

end Concord.Regex
