import Concord.Json.Size
import Concord.Validation.Library
import Concord.Validation.MetaSchema
import Concord.Validation.Reading

namespace Concord.Validation

/-! Schemas that documents can be held against.

A schema is prepared once: it must be one by the schema of schemas, and everything that it refers
to must be found.
-/

/-- A constraint with all that it refers to. -/
structure Validator where
  schema : Json
  root : Constraint
  targets : List (String × Constraint)

namespace Validator

/-- Where a schema stands that does not say so itself. -/
def defaultBase : Grammar.Uri where
  scheme? := some "json-schema".toList
  authority? := some ⟨none, [], none⟩
  path := ['/']
  query? := none
  fragment? := none

def baseOf (schema : Json) : Grammar.Uri :=
  match schema with
  | .object members => baseWithin defaultBase members
  | _ => defaultBase

/-- The constraints of targets and of all that they refer to, for as many targets as `limit`
says. -/
def readTargets? (library : Library) :
    Nat → List String → List (String × Constraint) → Option (List (String × Constraint))
  | 0, _, known | _, [], known => some known
  | limit + 1, target :: pending, known =>
      if (known.lookup target).isSome then readTargets? library limit pending known
      else do
        let (base, schema) ← library.find? (← Grammar.Uri.ofText? target)
        let constraint ← Constraint.ofJson? base schema
        readTargets? library limit (constraint.targets ++ pending) ((target, constraint) :: known)

/-- A schema with what it refers to, without regard to whether it is one. -/
def prepare? (siblings : Siblings) (schema : Json) : Option Validator := do
  let base := baseOf schema
  let found := sites base schema
  let references ← found.mapM Site.references?
  let standard := Table.ofList [(MetaSchema.identity, MetaSchema.document.normal)]
  let library := Library.addSites (standard.insert base.toText schema) found
  let size := schema.extent + (siblings.values.map Json.extent).foldl (· + ·) 1
  let library ← Library.gather? siblings (size * size) references.flatten [] library
  let root ← Constraint.ofJson? base schema
  let targets ← readTargets? library (size * size) root.targets []
  return { schema, root, targets }

/-- What references find, up to so many one within the other. -/
def follow (targets : List (String × Constraint)) : Nat → Constraint.Follow
  | 0, _, _, _ => []
  | limit + 1, target, place, value =>
      match targets.lookup target with
      | some constraint => constraint.violations (follow targets limit) place value
      | none => []

/-- Everything in a document that the schema does not allow. References that lead back to
themselves without a step into the document ask for nothing. -/
def violations (validator : Validator) (document : Json) : List Violation :=
  let document := document.normal
  let limit := (validator.targets.length + 1) * (document.depth + 2)
  validator.root.violations (follow validator.targets limit) .root document

/-- The schema of schemas. -/
def meta? : Option Validator := prepare? .empty MetaSchema.document.normal

def ofSchema? (siblings : Siblings) (schema : Json) : Option Validator := do
  let schema := schema.normal
  if ((← meta?).violations schema).isEmpty then prepare? siblings schema else none

end Validator

end Concord.Validation
