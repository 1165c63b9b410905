import Concord.Grammar.Uri
import Concord.Validation.Constraint

namespace Concord.Validation

/-! The keywords of JSON Schema: which of them hold further schemas, and what the others ask for.
-/

/-- How a keyword holds schemas. -/
inductive Nesting where
  | nothing
  | one
  | many
  | oneOrMany
  | named
  /-- Under a name either a schema or further names. -/
  | dependent
deriving DecidableEq, Repr

def Nesting.ofKeyword : String → Nesting
  | "additionalItems" | "additionalProperties" | "contains" | "else" | "if" | "not"
  | "propertyNames" | "then" => .one
  | "allOf" | "anyOf" | "oneOf" => .many
  | "items" => .oneOrMany
  | "definitions" | "patternProperties" | "properties" => .named
  | "dependencies" => .dependent
  | _ => .nothing

def stringsOf? (value : Json) : Option (List String) :=
  value.items?.bind (·.mapM Json.string?)

namespace Check

/-- The greatest limit that is told apart from all others. -/
def greatestLimit : Nat := 0xFFFFFFFFFFFFFFFF

def limitOf? : Json → Option Nat
  | .number (.integer value) =>
      if value < 0 then none else some (min value.toNat greatestLimit)
  | .number (.real value) =>
      if value.isIntegral then
        some (if value.negative then 0
          else min (value.numerator / value.denominator) greatestLimit)
      else none
  | _ => none

def kindsOf? : Json → Option (List Kind)
  | .string written => (Kind.ofName? written).map ([·])
  | value => do
      let kinds ← (← stringsOf? value).mapM Kind.ofName?
      return Kind.all.filter kinds.contains

def boundOf? (side : Bound) (value : Json) : Option (Option Check) :=
  value.number?.map fun limit => some (.bound side limit)

/-- What a keyword asks for by itself, if that is anything; no value if it cannot be read. -/
def ofKeyword? (keyword : String) (value : Json) : Option (Option Check) :=
  match keyword with
  | "const" => some (some (.constant value))
  | "enum" => value.items?.map fun values => some (.among values)
  | "exclusiveMaximum" => boundOf? .exclusiveMaximum value
  | "exclusiveMinimum" => boundOf? .exclusiveMinimum value
  | "format" => value.string?.map fun written => (Format.ofName? written).map .format
  | "maxItems" => (limitOf? value).map fun limit => some (.atMost .items limit)
  | "maxLength" => (limitOf? value).map fun limit => some (.atMost .characters limit)
  | "maxProperties" => (limitOf? value).map fun limit => some (.atMost .properties limit)
  | "maximum" => boundOf? .maximum value
  | "minItems" => (limitOf? value).map fun limit => some (.atLeast .items limit)
  | "minLength" => (limitOf? value).map fun limit => some (.atLeast .characters limit)
  | "minProperties" => (limitOf? value).map fun limit => some (.atLeast .properties limit)
  | "minimum" => boundOf? .minimum value
  | "multipleOf" => value.number?.map fun divisor => some (.multiple divisor.toReal)
  | "pattern" => do
      let written ← value.string?
      return some (.pattern written (← Regex.ofSchemaPattern? written))
  | "required" => (stringsOf? value).map fun names => some (.required names)
  | "type" => (kindsOf? value).map fun kinds => some (.kind kinds)
  | "uniqueItems" =>
      match value with
      | .bool asked => some (if asked then some .distinct else none)
      | _ => none
  | _ => some none

end Check

/-! Every schema in a document has a base, against which the references in it are taken: the
nearest `$id` around it, or where the document comes from. -/

def textAt? (name : String) (members : List (String × Json)) : Option String :=
  (Json.lastValue? name members).bind Json.string?

/-- The name that a schema gives itself. Beside a reference it gives none. -/
def identity? (members : List (String × Json)) : Option String :=
  if (Json.lastValue? "$ref" members).isSome then none
  else (textAt? "$id" members).filter fun written => !written.startsWith "#"

/-- What a written reference refers to. -/
def absolute? (base : Grammar.Uri) (written : String) : Option Grammar.Uri := do
  let resolved ← base.resolve? (← Grammar.Uri.ofText? written)
  return resolved.normal

def baseWithin (base : Grammar.Uri) (members : List (String × Json)) : Grammar.Uri :=
  (((identity? members).bind (absolute? base)).map (·.withoutFragment)).getD base

end Concord.Validation
