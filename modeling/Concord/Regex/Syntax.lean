import Concord.Text.Property

namespace Concord

/-! Regular expressions: sets of characters, places between characters, and what is made of them.
-/

namespace Regex

/-- Conditions on a place in a text. -/
inductive Anchor where
  | textStart
  | textEnd
  | lineStart
  | lineEnd
  | wordBoundary
  | noWordBoundary
  | wordStart
  | wordEnd
  | wordStartHalf
  | wordEndHalf
deriving DecidableEq, Repr

end Regex

inductive Regex where
  | empty
  | set (chars : Text.CharSet)
  | anchor (place : Regex.Anchor)
  | concat (first second : Regex)
  | either (first second : Regex)
  | repeated (least : Nat) (most? : Option Nat) (body : Regex)
  /-- A group whose place in a match is remembered. -/
  | group (body : Regex)
  /-- A condition on the text behind or before a place. -/
  | look (behind negated : Bool) (body : Regex)

namespace Regex

def sequence (items : List Regex) : Regex :=
  match items with
  | [] => .empty
  | item :: rest => rest.foldl .concat item

/-- The branches, the last one of which is at hand, as one expression. -/
def eitherOf (last : Regex) (earlier : List Regex) : Regex :=
  earlier.foldl (fun expression branch => .either branch expression) last

def branches : Regex → List Regex
  | .either first second => first.branches ++ second.branches
  | expression => [expression]

end Regex

end Concord
