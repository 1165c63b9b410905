import Concord.Validation.Validator

namespace Concord.Validation

/-! What is said of a document that was held against a schema. -/

/-- A violation in the words of its schema. -/
structure Finding where
  instancePath : String
  message : String
  schemaPath : String
  /-- The last step of the path in the schema. -/
  rule : String
  /-- What stands in the schema where the path leads; a path through a reference leads nowhere. -/
  ruleValue? : Option Json

def Finding.ofViolation (schema : Json) (violation : Violation) : Finding where
  instancePath := violation.place.value.write
  message := violation.message
  schemaPath := violation.place.rule.write
  rule := (violation.place.rule.getLast?.map Json.writeStep).getD ""
  ruleValue? := schema.at? violation.place.rule

def Finding.render (finding : Finding) : String :=
  (if finding.instancePath = "" then "(root)" else finding.instancePath) ++ ": " ++
    finding.message ++ " [" ++ finding.rule ++ "]"

def Finding.toJson (finding : Finding) : Json :=
  .object [("instance_path", .string finding.instancePath),
    ("message", .string finding.message),
    ("schema_path", .string finding.schemaPath),
    ("rule", .string finding.rule),
    ("rule_value", finding.ruleValue?.getD .null)]

def Validator.findings (validator : Validator) (document : Json) : List Finding :=
  (validator.violations document).map (.ofViolation validator.schema)

/-- The name that the schema gives itself, if it is a text. -/
def Validator.identity? (validator : Validator) : Option Json := validator.schema.get? "$id"

end Concord.Validation
