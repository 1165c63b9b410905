import Concord.Drift.Presence

namespace Concord.Drift

/-! The fields that one representation has and others lack.

Qualified paths are compared as wholes, with a context by the whole written path.  What is missing
from the context or from the schema is decided by the last name of a path.
-/

structure Summary where
  onlyInSchema : List FieldPath
  onlyInContext : List String
  onlyInMeta : List FieldPath
  onlyInXsd : List FieldPath
  missingFromContext : List FieldPath
  missingFromSchema : List String
  totals : List (Representation × Nat)
deriving DecidableEq

namespace Summary

def endsSome (paths : PathSet) (name : String) : Bool := paths.toList.any (·.endsWith name)

def ofInventories (inventories : Inventories) : Summary where
  onlyInSchema := inventories.jsonSchema.toList.filter fun path =>
    !inventories.declaredBy path [.jsonLdContext, .xsd]
  onlyInContext := inventories.context.toList.filter fun name =>
    !endsSome inventories.jsonSchema name && !endsSome inventories.xsd name
  onlyInMeta := inventories.metaSchema.toList.filter fun path =>
    !inventories.declaredBy path [.jsonSchema, .jsonLdContext, .xsd]
  onlyInXsd := inventories.xsd.toList.filter fun path =>
    !inventories.declaredBy path [.jsonSchema, .jsonLdContext]
  missingFromContext := inventories.jsonSchema.toList.filter fun path =>
    !inventories.context.namesLeaf path
  missingFromSchema := inventories.context.toList.filter fun name =>
    !endsSome inventories.jsonSchema name
  totals := Representation.all.map fun representation =>
    (representation, inventories.total representation)

/-- A summary asks the inventories behind a matrix, not its rows. -/
def ofMatrix (matrix : PresenceMatrix) : Summary := ofInventories matrix.inventories

def total (summary : Summary) (representation : Representation) : Nat :=
  (summary.totals.lookup representation).getD 0

def toJson (summary : Summary) : Json :=
  let paths (items : List FieldPath) := Json.strings (items.map (·.render))
  .object [("only_in_schema", paths summary.onlyInSchema),
    ("only_in_context", .strings summary.onlyInContext),
    ("only_in_meta", paths summary.onlyInMeta),
    ("only_in_xsd", paths summary.onlyInXsd),
    ("missing_from_context", paths summary.missingFromContext),
    ("missing_from_schema", .strings summary.missingFromSchema),
    ("totals", .object (summary.totals.map fun total => (total.1.id, .ofNat total.2)))]

end Summary

structure Preview (α : Type u) where
  shown : List α
  hidden : Nat

def preview (items : List α) (limit : Nat) : Preview α :=
  ⟨items.take limit, items.length - limit⟩

def defaultPreviewLimit : Nat := 10

end Concord.Drift
