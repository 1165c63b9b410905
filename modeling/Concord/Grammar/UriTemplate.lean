import Concord.Grammar.Host

namespace Concord.Grammar.UriTemplate

/-! Templates of references: text with expressions in braces, in which names stand for what is to
be filled in.
-/

def isSmallHexDigit (c : Char) : Bool := c.isDigit || ('a' ≤ c && c ≤ 'f')

/-- Characters that a template holds outside of expressions, or must encode. -/
def isLiteral (c : Char) : Bool :=
  ' ' < c && !"\"'<>%\\^\x60\x7b|\x7d".toList.contains c

def isNameChar (c : Char) : Bool := c.isLower || c.isDigit || c == '_'

/-- What is behind a name of at least one character. -/
def afterName? (begun : Bool) : List Char → Option (List Char)
  | '%' :: high :: low :: rest =>
      if isSmallHexDigit high && isSmallHexDigit low then afterName? true rest else none
  | c :: rest =>
      if isNameChar c then afterName? true rest else if begun then some (c :: rest) else none
  | [] => if begun then some [] else none

/-- A name with a greatest length of one to four digits, or with a star. -/
def isVariable (text : List Char) : Bool :=
  match afterName? false text with
  | none => false
  | some [] | some ['*'] => true
  | some (':' :: first :: digits) =>
      first.isDigit && first != '0' && digits.length ≤ 3 && digits.all Char.isDigit
  | some _ => false

/-- What stands in braces: perhaps an operator, and names between commas. -/
def isExpression (text : List Char) : Bool :=
  match text with
  | [] => false
  | first :: rest =>
      let names := if "+#./;?&=,!@|".toList.contains first then rest else text
      (pieces ',' names).all isVariable

/-- The text up to a closing brace, and what is behind it. -/
def untilBrace? (text : List Char) : Option (List Char × List Char) :=
  match text.dropWhile (· ≠ '\x7d') with
  | _ :: behind => some (text.takeWhile (· ≠ '\x7d'), behind)
  | [] => none

/-- Whether a text is a template, read in at most so many steps. -/
def isWrittenWithin : Nat → List Char → Bool
  | 0, text => text.isEmpty
  | _, [] => true
  | steps + 1, '%' :: high :: low :: rest =>
      isSmallHexDigit high && isSmallHexDigit low && isWrittenWithin steps rest
  | steps + 1, '\x7b' :: rest =>
      match untilBrace? rest with
      | some (expression, behind) => isExpression expression && isWrittenWithin steps behind
      | none => false
  | steps + 1, c :: rest => isLiteral c && isWrittenWithin steps rest

def isWritten (text : List Char) : Bool := isWrittenWithin text.length text

end Concord.Grammar.UriTemplate
