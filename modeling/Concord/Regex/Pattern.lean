import Concord.Regex.Parser
import Concord.Regex.Size

namespace Concord.Regex

/-! Patterns: texts that are accepted as regular expressions where one is asked for.

A plain pattern is read as it stands. A pattern of a schema may also look around; it is read once
more by a grammar that knows conditions, in which only some expressions may be repeated and groups
lie less deep.
-/

def depthLimit : Nat := 250

/-- Whether a text is an expression without look-around, neither too deep nor too large. -/
def isPattern (text : String) : Bool :=
  match read .worldwide text with
  | .ok nested => nested.depth ≤ depthLimit && nested.expression.fits
  | .error _ => false

/-- How deep groups may lie in such an expression. -/
def groupLimit : Nat := 63

/-- Conditions, settings and what is empty cannot be repeated. -/
def isRepeatable : Regex → Bool
  | .empty | .anchor _ | .look _ _ _ => false
  | _ => true

/-- The length that all texts have that an expression matches, if there is one. -/
def constantLength? : Regex → Option Nat
  | .empty | .anchor _ | .look _ _ _ => some 0
  | .set _ => some 1
  | .concat first second => do return (← first.constantLength?) + (← second.constantLength?)
  | .either first second => do
      let length ← first.constantLength?
      if (← second.constantLength?) = length then return length else none
  | .repeated least most? body => do
      let length ← body.constantLength?
      if most? = some least then return least * length else none
  | .group body => body.constantLength?

/-- A condition on the text behind a place, each branch of which has one length. -/
def lookBehind? (negated : Bool) (body : Regex) : Option Regex :=
  if body.branches.all fun branch => branch.constantLength?.isSome then
    some (.look true negated body)
  else none

/-- Layout and comments; comments in parentheses are passed over in any expression. -/
def skipComments (flags : Flags) : Nat → List Char → Option (List Char)
  | 0, text => some text
  | steps + 1, text =>
      match text with
      | '(' :: '?' :: '#' :: rest =>
          match skipComment rest with
          | some behind => skipComments flags steps behind
          | none => none
      | '#' :: rest =>
          if flags.extended then
            skipComments flags steps ((rest.dropWhile (· ≠ '\n')).drop 1)
          else some text
      | c :: rest =>
          if flags.extended && (c == ' ' || c == '\t' || c == '\n' || c == '\r') then
            skipComments flags steps rest
          else some text
      | [] => some []
where
  skipComment : List Char → Option (List Char)
    | [] => none
    | ')' :: behind => some behind
    | '\\' :: _ :: rest => skipComment rest
    | _ :: rest => skipComment rest

def skip (flags : Flags) (text : List Char) : Except Fault (List Char) :=
  orMalformed (skipComments flags (text.length + 1) text)

/-- The digits that a number begins with, if there are any. -/
def readDecimal (text : List Char) : Option (Nat × List Char) :=
  let digits := text.takeWhile Char.isDigit
  if digits.isEmpty then none
  else
    some (digits.foldl (fun value c => value * 10 + (c.toNat - '0'.toNat)) 0,
      text.dropWhile Char.isDigit)

/-- The counts of a repetition whose opening brace is read; other text in braces stands for
itself. -/
def readLooseCounts (flags : Flags) (text : List Char) :
    Option ((Nat × Option Nat) × List Char) := do
  let blanks (text : List Char) : Option (List Char) := skipComments flags (text.length + 1) text
  let text ← blanks text
  let (least, rest) ←
    match text with
    | ',' :: _ => some (0, text)
    | _ => readDecimal text
  match ← blanks rest with
  | '\x7d' :: behind => return ((least, some least), behind)
  | ',' :: rest =>
      let rest ← blanks rest
      let (most?, rest) := match readDecimal rest with
        | some (most, behind) => (some most, behind)
        | none => (none, rest)
      match ← blanks rest with
      | '\x7d' :: behind => return ((least, most?), behind)
      | _ => none
  | _ => none

/-- The repetition of an item, if one is written behind it, with its marks. -/
def readRepetition (flags : Flags) (item : Regex) (text : List Char) :
    Except Fault (Regex × List Char) := do
  let text ← skip flags text
  let counts? : Option ((Nat × Option Nat) × List Char) :=
    match text with
    | '?' :: rest => some ((0, some 1), rest)
    | '*' :: rest => some ((0, none), rest)
    | '+' :: rest => some ((1, none), rest)
    | '\x7b' :: rest => readLooseCounts flags rest
    | _ => none
  match counts? with
  | none => return (item, text)
  | some ((least, most?), rest) =>
      if !item.isRepeatable then throw .malformed
      else
        let rest ← skip flags rest
        let rest := skipReluctance rest
        let rest := match rest with
          | '+' :: behind => behind
          | _ => rest
        return (.repeated least most? item, rest)

/-- A code point with a fixed number of digits, or with at most eight in braces. -/
def readPlainHex (digits : Nat) (text : List Char) : Except Fault (Escape × List Char) := do
  let taken := text.take digits
  if taken.length = digits ∧ taken.all fun c => (hexDigit? c).isSome then
    return (.literal (← orMalformed (charOfHex? taken)), text.drop digits)
  else
    match text with
    | '\x7b' :: rest =>
        let taken := rest.takeWhile (· ≠ '\x7d')
        if 8 < taken.length then throw .malformed
        else
          return (.literal (← orMalformed (charOfHex? taken)),
            (rest.dropWhile (· ≠ '\x7d')).drop 1)
    | _ => throw .malformed

def hexDigits : Text.CharSet := .union asciiDigits (.union (.between 'a' 'f') (.between 'A' 'F'))

/-- An escape outside a class whose backslash is read. -/
def readLooseEscape (dialect : Dialect) (flags : Flags) (text : List Char) :
    Except Fault (Escape × List Char) :=
  let boundary (place : Anchor) (rest : List Char) : Except Fault (Escape × List Char) :=
    match rest with
    | '\x7b' :: _ => .error .malformed
    | _ => .ok (.anchor place, rest)
  match text with
  | [] => .error .malformed
  | 'b' :: rest => boundary .wordBoundary rest
  | 'B' :: rest => boundary .noWordBoundary rest
  | 'h' :: rest => .ok (.set hexDigits, rest)
  | 'H' :: rest => .ok (.set (.complement hexDigits), rest)
  | 'e' :: rest => .ok (.literal '\x1b', rest)
  | 'x' :: rest => readPlainHex 2 rest
  | 'u' :: rest => readPlainHex 4 rest
  | 'U' :: rest => readPlainHex 8 rest
  | c :: rest =>
      if 0x7F < c.toNat then .ok (.literal c, rest)
      else readEscape dialect { flags with extended := false } text

/-- The flags of a group, behind its question mark, up to a colon or its end. -/
def readLooseFlags (flags : Flags) (isNegated hasLetter : Bool) :
    List Char → Except Fault (Flags × List Char)
  | [] => .error .malformed
  | ':' :: rest =>
      if isNegated && !hasLetter then .error .malformed else .ok (flags, ':' :: rest)
  | ')' :: rest => if hasLetter then .ok (flags, ')' :: rest) else .error .malformed
  | '-' :: rest => if isNegated then .error .malformed else readLooseFlags flags true false rest
  | c :: rest =>
      if c = 'R' ∨ (c = 'u' ∧ isNegated) then .error .malformed
      else
        match flags.set? c (!isNegated) with
        | some changed => readLooseFlags changed isNegated true rest
        | none => .error .malformed

def isLooseNameChar (c : Char) : Bool := c == '_' || Text.isLetter c || Text.isNumber c

inductive LooseOpening where
  | group
  | unnumbered (flags : Flags)
  | condition (behind negated : Bool)
  | setting (flags : Flags)

def readLooseOpening (flags : Flags) (text : List Char) :
    Except Fault (LooseOpening × List Char) := do
  let named (rest : List Char) : Except Fault (LooseOpening × List Char) :=
    match rest.takeWhile isLooseNameChar, rest.dropWhile isLooseNameChar with
    | _ :: _, '>' :: behind => .ok (.group, behind)
    | _, _ => .error .malformed
  match text with
  | '?' :: '=' :: rest => return (.condition false false, rest)
  | '?' :: '!' :: rest => return (.condition false true, rest)
  | '?' :: '<' :: '=' :: rest => return (.condition true false, rest)
  | '?' :: '<' :: '!' :: rest => return (.condition true true, rest)
  | '?' :: '>' :: rest => return (.unnumbered flags, rest)
  | '?' :: '<' :: rest => named rest
  | '?' :: 'P' :: '<' :: rest => named rest
  | '?' :: rest =>
      let (changed, behind) ← readLooseFlags flags false false rest
      match behind with
      | ':' :: behind => return (.unnumbered changed, behind)
      | _ :: behind => return (.setting changed, behind)
      | [] => throw .malformed
  | _ => return (.group, text)

/-- The branches of a group up to its end, which is left to be read. -/
def readLoosely (dialect : Dialect) :
    Nat → Nat → Flags → List Regex → List Regex → List Char → Except Fault (Regex × List Char)
  | 0, _, _, _, _, _ => .error .malformed
  | steps + 1, depth, flags, branches, items, text => do
      let text ← skip flags text
      let finish (text : List Char) : Except Fault (Regex × List Char) :=
        .ok (eitherOf (sequence items.reverse) branches, text)
      let continueWith (flags : Flags) (item : Regex) (rest : List Char) :
          Except Fault (Regex × List Char) := do
        let (item, behind) ← readRepetition flags item rest
        let items := match item with
          | .empty => items
          | _ => item :: items
        readLoosely dialect steps depth flags branches items behind
      match text with
      | [] => finish text
      | ')' :: _ => finish text
      | '|' :: rest =>
          readLoosely dialect steps depth flags (sequence items.reverse :: branches) [] rest
      | '*' :: _ | '+' :: _ | '?' :: _ => throw .malformed
      | '[' :: rest =>
          let (read, behind) ←
            readClass dialect { flags with extended := false } (2 * rest.length + 2) rest
          continueWith flags (.set read.chars) behind
      | '(' :: rest =>
          if depth = groupLimit then throw .malformed
          else
            let (opening, inside) ← readLooseOpening flags (← skip flags rest)
            let body (flags : Flags) : Except Fault (Regex × List Char) := do
              let (body, rest) ← readLoosely dialect steps (depth + 1) flags [] [] inside
              match rest with
              | ')' :: behind => return (body, behind)
              | _ => throw .malformed
            match opening with
            | .setting changed => continueWith changed .empty inside
            | .group => do
                let (body, behind) ← body flags
                continueWith flags (.group body) behind
            | .unnumbered changed => do
                let (body, behind) ← body changed
                continueWith flags body behind
            | .condition false negated => do
                let (body, behind) ← body flags
                continueWith flags (.look false negated body) behind
            | .condition true negated => do
                let (body, behind) ← body flags
                continueWith flags (← orMalformed (lookBehind? negated body)) behind
      | '\\' :: rest =>
          let (escape, behind) ← readLooseEscape dialect flags rest
          match escape with
          | .literal c => continueWith flags (.set (flags.fold (.one c))) behind
          | .set chars => continueWith flags (.set chars) behind
          | .anchor place => continueWith flags (.anchor place) behind
      | '.' :: _ | '^' :: _ | '$' :: _ =>
          let (item, behind) ← readPrimitive dialect flags text
          continueWith flags item behind
      | c :: rest => continueWith flags (.set (flags.fold (.one c))) rest

/-- An expression that may look around. -/
def lookingAround? (dialect : Dialect) (text : String) : Option Regex :=
  let chars := text.toList
  match readLoosely dialect (2 * chars.length + 2) 0 .standard [] [] chars with
  | .ok (expression, []) => if expression.fits then some expression else none
  | _ => none

/-- An expression of a schema. Its classes are those that the web knows, but for one that looks
around. -/
def ofSchemaPattern? (text : String) : Option Regex :=
  match read .web text with
  | .ok nested => if nested.depth ≤ depthLimit then lookingAround? .web text else none
  | .error .looksAround => lookingAround? .worldwide text
  | .error .malformed => none

end Concord.Regex
