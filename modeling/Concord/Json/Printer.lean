import Concord.Json.Basic

namespace Concord.Json

/-! Writing JSON.

Members are written in the order of their names, characters beyond ASCII as themselves, and a real
number with the fewest digits that read back to it: positionally from 0.00001 up to below
10^16, else with a signed exponent.
-/

/-- How real numbers are laid out in JSON text. -/
def numberLayout : NumberLayout := ⟨fun leading => -5 ≤ leading && leading ≤ 15, true⟩

end Concord.Json

namespace Concord.JsonNumber

def render : JsonNumber → String
  | .integer value => toString value
  | .real value => Json.numberLayout.write value

end Concord.JsonNumber

namespace Concord.Json

def escapedChar (c : Char) : List Char :=
  if c = '"' then ['\\', '"']
  else if c = '\\' then ['\\', '\\']
  else if c = '\x08' then ['\\', 'b']
  else if c = '\t' then ['\\', 't']
  else if c = '\n' then ['\\', 'n']
  else if c = '\x0c' then ['\\', 'f']
  else if c = '\r' then ['\\', 'r']
  else if c.toNat < 0x20 then
    ['\\', 'u', '0', '0', if c.toNat < 0x10 then '0' else '1',
      Nat.digitChar (c.toNat % 16)]
  else [c]

/-- A text as a JSON string. -/
def renderString (text : String) : String :=
  String.ofList ('"' :: text.toList.flatMap escapedChar ++ ['"'])

/-- Members in the order of their names, each name with its last text. -/
private def orderedMembers (separator : String) (members : List (String × String)) : List String :=
  (Table.ofList members).entries.map fun member => renderString member.1 ++ separator ++ member.2

mutual

/-- Compact text, without blanks. -/
def compact : Json → String
  | .null => "null"
  | .bool true => "true"
  | .bool false => "false"
  | .number value => value.render
  | .string text => renderString text
  | .array items => "[" ++ ",".intercalate (compactItems items) ++ "]"
  | .object members =>
      "\x7b" ++ ",".intercalate (orderedMembers ":" (compactMembers members)) ++ "\x7d"

def compactItems : List Json → List String
  | [] => []
  | item :: rest => compact item :: compactItems rest

def compactMembers : List (String × Json) → List (String × String)
  | [] => []
  | (name, value) :: rest => (name, compact value) :: compactMembers rest

end

private def indentation (depth : Nat) : String := String.ofList (List.replicate (2 * depth) ' ')

private def block (depth : Nat) (opening closing : String) (lines : List String) : String :=
  if lines.isEmpty then opening ++ closing
  else
    opening ++ "\n" ++ ",\n".intercalate (lines.map (indentation (depth + 1) ++ ·)) ++ "\n" ++
      indentation depth ++ closing

mutual

/-- Text over several lines, in the order in which the members stand. -/
def prettyAt (depth : Nat) : Json → String
  | .null => "null"
  | .bool true => "true"
  | .bool false => "false"
  | .number value => value.render
  | .string text => renderString text
  | .array items => block depth "[" "]" (prettyItems (depth + 1) items)
  | .object members => block depth "\x7b" "\x7d" (prettyMembers (depth + 1) members)

def prettyItems (depth : Nat) : List Json → List String
  | [] => []
  | item :: rest => prettyAt depth item :: prettyItems depth rest

def prettyMembers (depth : Nat) : List (String × Json) → List String
  | [] => []
  | (name, value) :: rest =>
      (renderString name ++ ": " ++ prettyAt depth value) :: prettyMembers depth rest

end

def pretty (value : Json) : String := prettyAt 0 value

end Concord.Json
