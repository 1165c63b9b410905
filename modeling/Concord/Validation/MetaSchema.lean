import Concord.Json.Basic

namespace Concord.Validation.MetaSchema

/-! What a schema looks like, as a schema. -/

def identity : String := "http://json-schema.org/draft-07/schema"

private def having (members : List (String × Json)) : Json := .object members

private def kind (name : String) : Json := having [("type", .string name)]

private def formatted (format : String) : Json :=
  having [("type", .string "string"), ("format", .string format)]

private def like (target : String) : Json := having [("$ref", .string target)]

private def itself : Json := like "#"

private def schemaList : Json := like "#/definitions/schemaArray"

private def count : Json := like "#/definitions/nonNegativeInteger"

private def texts : Json := like "#/definitions/stringArray"

private def listOf (item : Json) (further : List (String × Json)) : Json :=
  having ([("type", .string "array"), ("items", item)] ++ further)

private def mapOf (value : Json) (further : List (String × Json)) : Json :=
  having ([("type", .string "object"), ("additionalProperties", value)] ++ further)

private def either (first second : Json) : Json := having [("anyOf", .array [first, second])]

private def kinds : Json := like "#/definitions/simpleTypes"

def definitions : List (String × Json) := [
  ("schemaArray", listOf itself [("minItems", Json.ofNat 1)]),
  ("nonNegativeInteger", having [("type", .string "integer"), ("minimum", Json.ofNat 0)]),
  ("simpleTypes", having [("enum",
    Json.strings ["array", "boolean", "integer", "null", "number", "object", "string"])]),
  ("stringArray", listOf (kind "string") [("uniqueItems", .bool true)])]

def properties : List (String × Json) := [
  ("$id", formatted "uri-reference"),
  ("$schema", formatted "uri"),
  ("$ref", formatted "uri-reference"),
  ("$comment", kind "string"),
  ("title", kind "string"),
  ("description", kind "string"),
  ("readOnly", kind "boolean"),
  ("examples", kind "array"),
  ("multipleOf", having [("type", .string "number"), ("exclusiveMinimum", Json.ofNat 0)]),
  ("maximum", kind "number"),
  ("exclusiveMaximum", kind "number"),
  ("minimum", kind "number"),
  ("exclusiveMinimum", kind "number"),
  ("maxLength", count),
  ("minLength", count),
  ("pattern", formatted "regex"),
  ("additionalItems", itself),
  ("items", either itself schemaList),
  ("maxItems", count),
  ("minItems", count),
  ("uniqueItems", kind "boolean"),
  ("contains", itself),
  ("maxProperties", count),
  ("minProperties", count),
  ("required", texts),
  ("additionalProperties", itself),
  ("definitions", mapOf itself []),
  ("properties", mapOf itself []),
  ("patternProperties",
    mapOf itself [("propertyNames", having [("format", .string "regex")])]),
  ("dependencies", mapOf (either itself texts) []),
  ("propertyNames", itself),
  ("enum", kind "array"),
  ("type", either kinds
    (listOf kinds [("minItems", Json.ofNat 1), ("uniqueItems", .bool true)])),
  ("format", kind "string"),
  ("contentMediaType", kind "string"),
  ("contentEncoding", kind "string"),
  ("if", itself),
  ("then", itself),
  ("else", itself),
  ("allOf", schemaList),
  ("anyOf", schemaList),
  ("oneOf", schemaList),
  ("not", itself)]

def document : Json := having [
  ("$id", .string identity),
  ("type", Json.strings ["object", "boolean"]),
  ("definitions", .object definitions),
  ("properties", .object properties)]

end Concord.Validation.MetaSchema
