import Concord.Inventories
import Concord.Json.Basic

namespace Concord.Drift

/-! Which representations declare which field.

A presence matrix has a row for every path that a qualified representation declares.  A context
names fields without their section, so its flag says that the name of a declared data field is
known to it; a path that only the meta-schema declares is a keyword and no data field.
-/

structure Presence where
  jsonSchema : Bool
  jsonLdContext : Bool
  metaSchema : Bool
  xsd : Bool
deriving DecidableEq, Repr

namespace Presence

def absent : Presence := ⟨false, false, false, false⟩

def get (presence : Presence) : Representation → Bool
  | .jsonSchema => presence.jsonSchema
  | .jsonLdContext => presence.jsonLdContext
  | .metaSchema => presence.metaSchema
  | .xsd => presence.xsd

def set (presence : Presence) (representation : Representation) (present : Bool) : Presence :=
  match representation with
  | .jsonSchema => { presence with jsonSchema := present }
  | .jsonLdContext => { presence with jsonLdContext := present }
  | .metaSchema => { presence with metaSchema := present }
  | .xsd => { presence with xsd := present }

/-- The representations that describe resume data disagree; the meta-schema has no say. -/
def isMismatch (presence : Presence) : Bool :=
  !(presence.jsonSchema == presence.jsonLdContext && presence.jsonLdContext == presence.xsd)

def isDataField (presence : Presence) : Bool := presence.jsonSchema || presence.xsd

def toJson (presence : Presence) : Json :=
  .object [("json_schema", .bool presence.jsonSchema),
    ("json_ld_context", .bool presence.jsonLdContext),
    ("meta_schema", .bool presence.metaSchema), ("xsd", .bool presence.xsd)]

end Presence

/-- The rows of a matrix in the order of their paths, and the inventories that they come from. -/
structure PresenceMatrix where
  inventories : Inventories
  rows : Table FieldPath Presence

namespace PresenceMatrix

def declare (representation : Representation) (rows : Table FieldPath Presence)
    (paths : PathSet) : Table FieldPath Presence :=
  paths.toList.foldl
    (fun rows path =>
      rows.alter path fun presence => (presence.getD .absent).set representation true)
    rows

/-- The rows of data fields marked for the context by their last name. -/
def reconcile (names : NameSet) (rows : Table FieldPath Presence) : Table FieldPath Presence :=
  rows.mapValues fun path presence =>
    presence.set .jsonLdContext (presence.isDataField && names.namesLeaf path)

def ofInventories (inventories : Inventories) : PresenceMatrix :=
  let declared :=
    declare .xsd
      (declare .metaSchema (declare .jsonSchema ∅ inventories.jsonSchema) inventories.metaSchema)
      inventories.xsd
  ⟨inventories, reconcile inventories.context declared⟩

def presence (matrix : PresenceMatrix) (path : FieldPath) : Presence :=
  (matrix.rows.get? path).getD .absent

def size (matrix : PresenceMatrix) : Nat := matrix.rows.size

def mismatches (matrix : PresenceMatrix) : List (FieldPath × Presence) :=
  matrix.rows.entries.filter (·.2.isMismatch)

def toJson (matrix : PresenceMatrix) : Json :=
  .object [("rows", .object (matrix.rows.entries.map fun row => (row.1.render, row.2.toJson)))]

end PresenceMatrix

end Concord.Drift
