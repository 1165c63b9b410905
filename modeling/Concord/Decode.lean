import Concord.Drift.Checklist

namespace Concord

/-! Reading paths and checklists from JSON values.

A path is a string.  A checklist is an object of exactly `key` and `fields`, or an array of the
two.  The first fault is reported, the members of an object being looked at in the order of their
names.
-/

inductive DecodeError where
  | invalidType (found expected : String)
  | invalidLength (length : Nat) (expected : String)
  | missingField (name : String)
  | unknownField (name : String)
  | path (error : PathError)
deriving DecidableEq

def DecodeError.message : DecodeError → String
  | .invalidType found expected => "invalid type: " ++ found ++ ", expected " ++ expected
  | .invalidLength length expected =>
      "invalid length " ++ toString length ++ ", expected " ++ expected
  | .missingField name => "missing field `" ++ name ++ "`"
  | .unknownField name => "unknown field `" ++ name ++ "`, expected `key` or `fields`"
  | .path error => error.message

namespace Json

/-- A value as a decoding error names it. -/
def description : Json → String
  | .null => "null"
  | .bool true => "boolean `true`"
  | .bool false => "boolean `false`"
  | .number (.integer value) => "integer `" ++ toString value ++ "`"
  | .number (.real value) => "floating point `" ++ NumberLayout.pointed.write value ++ "`"
  | .string text => "string " ++ Text.quoted text
  | .array _ => "sequence"
  | .object _ => "map"

def decodeString (value : Json) : Except DecodeError String :=
  match value with
  | .string text => .ok text
  | other => .error (.invalidType other.description "a string")

def decodeStrings (value : Json) : Except DecodeError (List String) :=
  match value with
  | .array items => items.mapM decodeString
  | other => .error (.invalidType other.description "a sequence")

end Json

def FieldPath.ofJson (value : Json) : Except DecodeError FieldPath := do
  let text ← value.decodeString
  (FieldPath.parse text).mapError .path

namespace Drift.Checklist

/-- The parts of a checklist that are read, before they are checked. -/
structure Draft where
  key? : Option String
  fields? : Option (List String)

def Draft.readMember (draft : Draft) (member : String × Json) : Except DecodeError Draft :=
  match member.1 with
  | "key" => do return { draft with key? := some (← member.2.decodeString) }
  | "fields" => do return { draft with fields? := some (← member.2.decodeStrings) }
  | other => .error (.unknownField other)

def Draft.complete (draft : Draft) : Except DecodeError (String × List String) :=
  match draft.key?, draft.fields? with
  | none, _ => .error (.missingField "key")
  | _, none => .error (.missingField "fields")
  | some key, some fields => .ok (key, fields)

def partsOfJson (value : Json) : Except DecodeError (String × List String) :=
  match value with
  | .object members => do
      let draft ← (Table.ofList members).entries.foldlM Draft.readMember ⟨none, none⟩
      draft.complete
  | .array items =>
      match items with
      | [] => .error (.invalidLength 0 "struct RawChecklist with 2 elements")
      | key :: rest => do
          let key ← key.decodeString
          match rest with
          | [] => .error (.invalidLength 1 "struct RawChecklist with 2 elements")
          | fields :: more => do
              let fields ← fields.decodeStrings
              if more.isEmpty then return (key, fields)
              else .error (.invalidLength items.length "fewer elements in array")
  | other => .error (.invalidType other.description "struct RawChecklist")

def ofJson (value : Json) : Except DecodeError Checklist := do
  let (key, fields) ← partsOfJson value
  (ofTexts key fields).mapError .path

end Drift.Checklist

end Concord
