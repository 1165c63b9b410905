import Concord.Json.Basic

namespace Concord

/-! When two JSON values are the same.

The order in which members are written does not matter.  As values of a document two numbers are
the same if they were read the same way; as instances of a schema they are if they are equal as
numbers, so that 1.0 is 1.
-/

namespace JsonNumber

def equal (x y : JsonNumber) : Bool := x.compare y == .eq

/-- Equal, and both exact or both not. -/
def identical (x y : JsonNumber) : Bool :=
  match x, y with
  | .integer _, .integer _ | .real _, .real _ => x.equal y
  | _, _ => false

end JsonNumber

namespace Json

mutual

/-- The value with the members of every object in order, each name once. -/
def normal : Json → Json
  | .array items => .array (normalItems items)
  | .object members => .object (Table.ofList (normalMembers members)).entries
  | value => value

def normalItems : List Json → List Json
  | [] => []
  | item :: rest => normal item :: normalItems rest

def normalMembers : List (String × Json) → List (String × Json)
  | [] => []
  | (name, value) :: rest => (name, normal value) :: normalMembers rest

end

mutual

/-- Agreement of two values, members being compared as they stand. -/
def agree (numbers : JsonNumber → JsonNumber → Bool) : Json → Json → Bool
  | .null, .null => true
  | .bool x, .bool y => x == y
  | .number x, .number y => numbers x y
  | .string x, .string y => x == y
  | .array xs, .array ys => agreeItems numbers xs ys
  | .object xs, .object ys => agreeMembers numbers xs ys
  | _, _ => false

def agreeItems (numbers : JsonNumber → JsonNumber → Bool) : List Json → List Json → Bool
  | [], [] => true
  | x :: xs, y :: ys => agree numbers x y && agreeItems numbers xs ys
  | _, _ => false

def agreeMembers (numbers : JsonNumber → JsonNumber → Bool) :
    List (String × Json) → List (String × Json) → Bool
  | [], [] => true
  | (name, x) :: xs, (other, y) :: ys =>
      name == other && agree numbers x y && agreeMembers numbers xs ys
  | _, _ => false

end

def identical (x y : Json) : Bool := agree JsonNumber.identical x.normal y.normal

def equal (x y : Json) : Bool := agree JsonNumber.equal x.normal y.normal

end Json

end Concord
