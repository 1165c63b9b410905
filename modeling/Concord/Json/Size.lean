import Concord.Json.Basic

namespace Concord.Json

/-! How large a JSON value is. -/

mutual

/-- How many values a value is made of. -/
def extent : Json → Nat
  | .array items => extentOfItems items + 1
  | .object members => extentOfMembers members + 1
  | _ => 1

def extentOfItems : List Json → Nat
  | [] => 0
  | item :: rest => extent item + extentOfItems rest

def extentOfMembers : List (String × Json) → Nat
  | [] => 0
  | (_, value) :: rest => extent value + extentOfMembers rest

end

mutual

/-- How many values stand one within the other. -/
def depth : Json → Nat
  | .array items => depthOfItems items + 1
  | .object members => depthOfMembers members + 1
  | _ => 1

def depthOfItems : List Json → Nat
  | [] => 0
  | item :: rest => max (depth item) (depthOfItems rest)

def depthOfMembers : List (String × Json) → Nat
  | [] => 0
  | (_, value) :: rest => max (depth value) (depthOfMembers rest)

end

end Concord.Json
