import Concord.Json.Basic
import Concord.Representation

namespace Concord

/-! What goes wrong with the documents of a comparison.

A document that cannot be loaded is a failure of its representation.  Elements of the XSD that
belong to no section are only warned of.
-/

inductive SourceIssue where
  | fileNotFound (representation : Representation) (path : String)
  | parseError (representation : Representation) (path reason : String)
  | io (representation : Representation) (path reason : String)
  | mappingGap (typeName : String) (skipped : Nat)
deriving DecidableEq, Repr

namespace SourceIssue

def message : SourceIssue → String
  | .fileNotFound representation path =>
      representation.id ++ ": file not found: " ++ path
  | .parseError representation path reason =>
      representation.id ++ ": parse error in " ++ path ++ ": " ++ reason
  | .io representation path reason =>
      representation.id ++ ": cannot read " ++ path ++ ": " ++ reason
  | .mappingGap typeName skipped =>
      "xsd: complex type " ++ typeName ++ " has no section mapping; " ++ toString skipped ++
        " element(s) skipped"

def representation : SourceIssue → Representation
  | .fileNotFound representation _ => representation
  | .parseError representation _ _ => representation
  | .io representation _ _ => representation
  | .mappingGap _ _ => .xsd

def isWarning : SourceIssue → Bool
  | .mappingGap _ _ => true
  | _ => false

def toJson : SourceIssue → Json
  | .fileNotFound representation path =>
      .object [("kind", .string "file_not_found"), ("representation", .string representation.id),
        ("path", .string path)]
  | .parseError representation path reason =>
      .object [("kind", .string "parse_error"), ("representation", .string representation.id),
        ("path", .string path), ("reason", .string reason)]
  | .io representation path reason =>
      .object [("kind", .string "io"), ("representation", .string representation.id),
        ("path", .string path), ("reason", .string reason)]
  | .mappingGap typeName skipped =>
      .object [("kind", .string "mapping_gap"), ("type_name", .string typeName),
        ("skipped_elements", .ofNat skipped)]

end SourceIssue

end Concord
