import Concord.FieldPath
import Concord.Representation

namespace Concord

/-! What each representation declares.

Three of them qualify a field by its section and give a set of paths.  A context names fields
without a section, so a qualified path is reconciled with it by the path's last name.
-/

abbrev PathSet := SortedSet FieldPath

abbrev NameSet := SortedSet String

def NameSet.namesLeaf (names : NameSet) (path : FieldPath) : Bool :=
  match path.leaf? with
  | some leaf => names.contains leaf.text
  | none => false

structure Inventories where
  jsonSchema : PathSet
  context : NameSet
  metaSchema : PathSet
  xsd : PathSet

namespace Inventories

def total (inventories : Inventories) : Representation → Nat
  | .jsonSchema => inventories.jsonSchema.size
  | .jsonLdContext => inventories.context.size
  | .metaSchema => inventories.metaSchema.size
  | .xsd => inventories.xsd.size

def qualified? (inventories : Inventories) : Representation → Option PathSet
  | .jsonSchema => some inventories.jsonSchema
  | .jsonLdContext => none
  | .metaSchema => some inventories.metaSchema
  | .xsd => some inventories.xsd

/-- Whether one of the representations declares the path. For a context that means the written
path as a whole. -/
def declaredBy (inventories : Inventories) (path : FieldPath) (others : List Representation) :
    Bool :=
  others.any fun representation =>
    match inventories.qualified? representation with
    | some paths => paths.contains path
    | none => inventories.context.contains path.render

end Inventories

end Concord
