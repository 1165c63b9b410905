import Concord.Grammar.Host
import Concord.Text.Runs

namespace Concord.Grammar

/-! Addresses of mailboxes.

Before the last at sign stands who the mail is for: words with points between them, or a quoted
text.  After it stands the host, by name or by address.  A name to display may go before the
address, which then stands in angle brackets; it is not looked at, and may be empty.
-/

/-- Whether a character is beyond ASCII; who the mail is for may be written with any of those. -/
def isForeign (c : Char) : Bool := 0x7F < c.toNat

def isWordPart (c : Char) : Bool :=
  c.isAlphanum || "!#$%&'*+-/=?^_\x60\x7b|\x7d~".toList.contains c || isForeign c

def isWords (text : List Char) : Bool :=
  (pieces '.' text).all fun word => word != [] && word.all isWordPart

def isVisible (c : Char) : Bool := '!' ≤ c && c ≤ '~'

/-- A backslash takes the next visible character as it is. -/
def isQuotable : List Char → Bool
  | [] => true
  | '\\' :: c :: rest => isVisible c && isQuotable rest
  | c :: rest =>
      (c == ' ' || c == '\t' || isForeign c || (isVisible c && c != '"' && c != '\\')) &&
        isQuotable rest

/-- The text between two characters that a text begins and ends with. -/
def between? (opening closing : Char) (text : List Char) : Option (List Char) :=
  match text with
  | first :: rest =>
      if first = opening ∧ rest.getLast? = some closing then some rest.dropLast else none
  | [] => none

def byteCount (text : List Char) : Nat := (String.ofList text).utf8ByteSize

def isRecipient (text : List Char) : Bool :=
  text != [] && byteCount text ≤ 64 &&
    match between? '"' '"' text with
    | some quoted => quoted != [] && isQuotable quoted
    | none => isWords text

/-- A host by name, or by an address in brackets. -/
def isMailHost (text : List Char) : Bool :=
  match between? '[' ']' text with
  | some address =>
      if "IPv6:".toList.isPrefixOf address then isAddress6 (address.drop 5)
      else isAddress4 address
  | none => isHostName text

/-- The texts before and after the last occurrence of a character. -/
def aroundLast? (mark : Char) (text : List Char) : Option (List Char × List Char) :=
  let backwards := text.reverse
  match backwards.dropWhile (· ≠ mark) with
  | _ :: before => some (before.reverse, (backwards.takeWhile (· ≠ mark)).reverse)
  | [] => none

def isAddress (text : List Char) : Bool :=
  match aroundLast? '@' text with
  | some (recipient, host) => isRecipient recipient && isMailHost host
  | none => false

/-- The texts before and after the last angle bracket that follows a blank. -/
def aroundBracket? : List Char → Option (List Char × List Char)
  | [] => none
  | ' ' :: '<' :: rest =>
      match aroundBracket? rest with
      | some (before, after) => some (' ' :: '<' :: before, after)
      | none => some ([], rest)
  | c :: rest => (aroundBracket? rest).map fun (before, after) => (c :: before, after)

def trim (text : List Char) : List Char :=
  ((text.dropWhile Text.isWhiteSpace).reverse.dropWhile Text.isWhiteSpace).reverse

def isMailbox (text : List Char) : Bool :=
  match aroundBracket? text with
  | none => isAddress text
  | some (_, bracketed) =>
      let bracketed := trim bracketed
      bracketed.getLast? == some '>' && isAddress bracketed.dropLast

end Concord.Grammar
