import Concord.Regex.Escape

namespace Concord.Regex

/-! Reading bracketed classes of characters.

Beside its set, a class has a depth: how many brackets, unions of several parts and operations lie
inside one another.
-/

structure Class where
  chars : Text.CharSet
  depth : Nat

/-- The parts of a class so far, which stand for their union. -/
structure Parts where
  chars : Text.CharSet
  count : Nat
  depth : Nat

namespace Parts

def none : Parts := ⟨.empty, 0, 0⟩

def add (parts : Parts) (chars : Text.CharSet) (depth : Nat) : Parts :=
  ⟨.union parts.chars chars, parts.count + 1, max parts.depth depth⟩

/-- A single part is no deeper for being the only one. -/
def toClass (flags : Flags) (parts : Parts) : Class :=
  ⟨flags.fold parts.chars, if parts.count ≤ 1 then parts.depth else parts.depth + 1⟩

end Parts

def namedClasses : List (String × Text.CharSet) :=
  let lower := Text.CharSet.between 'a' 'z'
  let upper := Text.CharSet.between 'A' 'Z'
  let alpha := Text.CharSet.union lower upper
  [("alnum", .union alpha asciiDigits),
    ("alpha", alpha),
    ("ascii", .between '\x00' '\x7f'),
    ("blank", .ofList ['\t', ' ']),
    ("cntrl", .union (.between '\x00' '\x1f') (.one '\x7f')),
    ("digit", asciiDigits),
    ("graph", .between '!' '~'),
    ("lower", lower),
    ("print", .between ' ' '~'),
    ("punct", .union (.union (.between '!' '/') (.between ':' '@'))
      (.union (.between '[' '\x60') (.between '\x7b' '~'))),
    ("space", asciiBlanks),
    ("upper", upper),
    ("word", asciiWords),
    ("xdigit", .union asciiDigits (.union (.between 'a' 'f') (.between 'A' 'F')))]

/-- A class that is named between colons, behind its inner bracket: whether it is negated, and its
set. -/
def readNamedClass (text : List Char) : Option ((Bool × Text.CharSet) × List Char) :=
  match text with
  | ':' :: rest =>
      let (negated, rest) := match rest with
        | '^' :: behind => (true, behind)
        | _ => (false, rest)
      match rest.dropWhile (· ≠ ':') with
      | ':' :: ']' :: behind =>
          (namedClasses.lookup (String.ofList (rest.takeWhile (· ≠ ':')))).map fun chars =>
            ((negated, chars), behind)
      | _ => none
  | _ => none

/-- A set without characters of ASCII's complement, which takes Unicode to be written. -/
def allowed (flags : Flags) (negated : Bool) (chars : Text.CharSet) : Except Fault Text.CharSet :=
  if negated && !flags.unicode then .error .malformed else .ok (.complementIf negated chars)

/-- One character or class of a bracketed class. Without Unicode it holds characters of ASCII. -/
def readClassItem (dialect : Dialect) (flags : Flags) (text : List Char) :
    Except Fault (Escape × List Char) := do
  let (item, behind) ←
    match text with
    | [] => throw .malformed
    | '\\' :: rest => readEscape dialect flags rest
    | c :: rest => pure (.literal c, rest)
  match item with
  | .literal c =>
      if !flags.unicode && 0x7F < c.toNat then throw .malformed else return (item, behind)
  | _ => return (item, behind)

def Escape.set? : Escape → Option Text.CharSet
  | .literal c => some (.one c)
  | .set chars => some chars
  | .anchor _ => none

/-- The next character that layout does not hide; the sign of a comment hides itself and what is
blank behind it. -/
def peekBehind (flags : Flags) (text : List Char) : Option Char :=
  if !flags.extended then text.head?
  else
    match text.dropWhile Text.isWhiteSpace with
    | '#' :: comment => (comment.dropWhile Text.isWhiteSpace).head?
    | rest => rest.head?

/-- An item, or a range between two characters. A hyphen before the end of the class or before
another hyphen is a character. -/
def readClassRange (dialect : Dialect) (flags : Flags) (text : List Char) :
    Except Fault (Text.CharSet × List Char) := do
  let (first, behind) ← readClassItem dialect flags text
  let behind := skipIgnored flags behind
  let alone : Except Fault (Text.CharSet × List Char) := do
    return (← orMalformed first.set?, behind)
  match behind with
  | [] => throw .malformed
  | '-' :: rest =>
      let next := peekBehind flags rest
      if next = some ']' ∨ next = some '-' then alone
      else
        let (last, behind) ← readClassItem dialect flags (skipIgnored flags rest)
        match first, last with
        | .literal low, .literal high =>
            if low ≤ high then return (.between low high, behind) else throw .malformed
        | _, _ => throw .malformed
  | _ => alone

inductive SetOperation where
  | intersection
  | difference
  | symmetricDifference
deriving DecidableEq, Repr

def SetOperation.apply : SetOperation → Text.CharSet → Text.CharSet → Text.CharSet
  | .intersection => .intersection
  | .difference => .difference
  | .symmetricDifference => .symmetricDifference

/-- What stands before an operation whose second operand is being read. -/
abbrev Pending := Option (Class × SetOperation)

def Pending.close (pending : Pending) (second : Class) : Class :=
  match pending with
  | some (first, operation) =>
      ⟨operation.apply first.chars second.chars, max first.depth second.depth + 1⟩
  | none => second

/-- The hyphens that a class begins with. -/
def readHyphens (flags : Flags) : Nat → Parts → List Char → Parts × List Char
  | 0, parts, text => (parts, text)
  | steps + 1, parts, text =>
      match text with
      | '-' :: rest => readHyphens flags steps (parts.add (.one '-') 0) (skipIgnored flags rest)
      | _ => (parts, text)

mutual

/-- A class whose opening bracket is read. -/
def readClass (dialect : Dialect) (flags : Flags) :
    Nat → List Char → Except Fault (Class × List Char)
  | 0, _ => .error .malformed
  | steps + 1, text => do
      let text := skipIgnored flags text
      let (negated, text) := match text with
        | '^' :: rest => (true, skipIgnored flags rest)
        | _ => (false, text)
      let (hyphens, rest) := readHyphens flags text.length .none text
      let (start, rest) := match rest with
        | ']' :: behind =>
            if hyphens.count = 0 then (Parts.none.add (.one ']') 0, behind) else (hyphens, rest)
        | _ => (hyphens, rest)
      let (inner, behind) ← readParts dialect flags steps none start rest
      let chars ← allowed flags negated (flags.fold inner.chars)
      return (⟨chars, inner.depth + 1⟩, behind)

/-- The parts of a class up to its closing bracket. -/
def readParts (dialect : Dialect) (flags : Flags) :
    Nat → Pending → Parts → List Char → Except Fault (Class × List Char)
  | 0, _, _, _ => .error .malformed
  | steps + 1, pending, parts, text =>
      let text := skipIgnored flags text
      let operand := parts.toClass flags
      let operation (kind : SetOperation) (rest : List Char) : Except Fault (Class × List Char) :=
        readParts dialect flags steps (some (pending.close operand, kind)) .none rest
      match text with
      | [] => .error .malformed
      | ']' :: behind => .ok (pending.close operand, behind)
      | '&' :: '&' :: rest => operation .intersection rest
      | '-' :: '-' :: rest => operation .difference rest
      | '~' :: '~' :: rest => operation .symmetricDifference rest
      | '[' :: rest =>
          match readNamedClass rest with
          | some ((negated, named), behind) => do
              let chars ← allowed flags negated (flags.fold named)
              readParts dialect flags steps pending (parts.add chars 0) behind
          | none => do
              let (inner, behind) ← readClass dialect flags steps rest
              readParts dialect flags steps pending (parts.add inner.chars inner.depth) behind
      | _ => do
          let (chars, behind) ← readClassRange dialect flags text
          readParts dialect flags steps pending (parts.add chars 0) behind

end

end Concord.Regex
