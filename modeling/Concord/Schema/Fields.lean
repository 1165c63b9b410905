import Concord.Inventories
import Concord.Json.Basic

namespace Concord.Schema

/-! The fields that a resume schema declares.

Every property of the schema that holds fields of its own is a section; its fields are listed
down to a depth limit.  A section whose value is a list carries the list marker, and nothing
below it does.  A property whose name cannot stand in a path is left out with all below it.
-/

/-- Which fields a JSON Schema declares, and below which of them it declares more. -/
inductive Shape where
  | scalar
  | object (fields : List (String × Shape))
  | array (item : Shape)

namespace Shape

/-- A schema with `properties` is an object, whatever else it says; otherwise one whose `items`
is an object is an array. -/
def ofJson (schema : Json) : Shape :=
  match _listed : schema.objectAt? "properties" with
  | some members =>
      .object (members.entries.attach.map fun ⟨entry, _⟩ => (entry.1, ofJson entry.2))
  | none =>
      match _found : schema.get? "items" with
      | some items => if items.isObject then .array (ofJson items) else .scalar
      | none => .scalar
termination_by sizeOf schema
decreasing_by
  · rename_i member
    exact Json.sizeOf_of_mem_objectAt _listed member
  · exact Json.sizeOf_get? _found

def fields? : Shape → Option (List (String × Shape))
  | .object fields => some fields
  | _ => none

def itemFields? : Shape → Option (List (String × Shape))
  | .array item => item.fields?
  | _ => none

end Shape

/-- Properties that describe the document and are no sections. -/
def metadataKeys : List String := ["$schema", "@type", "additionalType"]

def defaultDepth : Nat := 2

/-- The fields of a section, with those of nested objects, `depth` levels deep. -/
def fieldsBelow : Nat → FieldPath → List (String × Shape) → List FieldPath
  | 0, _, _ => []
  | depth + 1, above, fields =>
      fields.flatMap fun (written, shape) =>
        match FieldName.ofString? written with
        | none => []
        | some name =>
            let path := above.child name
            path ::
              match shape with
              | .object nested => fieldsBelow depth path nested
              | _ => []

/-- The fields of a section and whether it is a list, if the property is a section. -/
def sectionFields? : Shape → Option (List (String × Shape) × Bool)
  | .object fields => some (fields, false)
  | .array item => item.fields?.map fun fields => (fields, true)
  | .scalar => none

def fieldsOfSection (depth : Nat) (property : String × Shape) : List FieldPath :=
  if metadataKeys.contains property.1 then []
  else
    match sectionFields? property.2, FieldName.ofString? property.1 with
    | some (fields, list), some name => fieldsBelow depth ⟨[{ name, list }]⟩ fields
    | _, _ => []

def fields (depth : Nat) (schema : Shape) : PathSet :=
  .ofList ((schema.fields?.getD []).flatMap (fieldsOfSection depth))

/-- The inventory of a meta-schema: its keywords, each a path of one segment. -/
def keywords (schema : Shape) : PathSet :=
  .ofList ((schema.fields?.getD []).filterMap fun (written, _) =>
    if written.startsWith "$" || written.startsWith "@" then none
    else (FieldName.ofString? written).map FieldPath.field)

end Concord.Schema
