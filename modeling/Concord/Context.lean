import Concord.Inventories
import Concord.Json.Basic

namespace Concord.Context

/-! The fields that a JSON-LD context names: every key of its inline objects that is neither a
keyword nor one of the namespaces the vocabulary is built from.
-/

def namespaceKeys : List String := ["schema", "xsd", "rdf", "rdfs"]

def isFieldKey (key : String) : Bool := !key.startsWith "@" && !namespaceKeys.contains key

def inlineObjects (document : Json) : List (Table String Json) :=
  match document.get? "@context" with
  | some (.array entries) => entries.filterMap Json.members?
  | some context => context.members?.toList
  | none => []

def names (document : Json) : NameSet :=
  .ofList ((inlineObjects document).flatMap fun inline => inline.keys.filter isFieldKey)

/-- The inline objects as one; of a key that is defined twice, the last definition holds. -/
def merged (document : Json) : Table String Json :=
  (inlineObjects document).foldl (fun table inline => table.insertAll inline.entries) ∅

end Concord.Context
