import Concord.Proofs.Comparison.Coverage
import Concord.Proofs.FieldPath.Grammar

namespace Concord

/-! Where a summary takes a path for a name of the context, and where it does not.

The paths of one representation alone are listed without those that are written like a name of the
context.  Everywhere else the summary goes by the last name of a path.  The two ways agree as long
as the names of a context could stand in a path; a context may also have keys that could not, and the
main statement says that these are where the summary contradicts itself.
-/

/-- A path of the schema or of the XSD, not of both, that is written like a name of the context.  The
summary lists no such path as one of that representation alone. -/
inductive Inventories.SetAside (inventories : Inventories) (path : FieldPath) : Prop where
  | ofSchema (declared : path ∈ inventories.jsonSchema) (lacking : path ∉ inventories.xsd)
      (written : path.render ∈ inventories.context)
  | ofXsd (declared : path ∈ inventories.xsd) (lacking : path ∉ inventories.jsonSchema)
      (written : path.render ∈ inventories.context)

theorem Inventories.SetAside.written {inventories : Inventories} {path : FieldPath}
    (aside : inventories.SetAside path) : path.render ∈ inventories.context := by
  cases aside <;> assumption

namespace Drift.Summary

open FieldPath

variable {inventories : Inventories} {path : FieldPath}

theorem not_listed_of_setAside (aside : inventories.SetAside path) :
    path ∉ (ofInventories inventories).onlyInSchema ∧
      path ∉ (ofInventories inventories).onlyInXsd :=
  ⟨fun listed => (mem_onlyInSchema_iff.mp listed).2.1 aside.written,
    fun listed => (mem_onlyInXsd_iff.mp listed).2.2 aside.written⟩

theorem mem_onlyInContext_iff_of_setAside (aside : inventories.SetAside path) :
    path.render ∈ (ofInventories inventories).onlyInContext ↔ ¬ IsName path.render := by
  rw [mem_onlyInContext_iff]
  constructor
  · intro unmatched named
    obtain ⟨name, rfl⟩ := exists_eq_field_of_isName named
    have ends : (field name).endsWith (field name).render = true :=
      endsWith_iff.mpr ⟨name, rfl, (render_field name).symm⟩
    rcases aside with ⟨declared, _, _⟩ | ⟨declared, _, _⟩
    · rw [unmatched.2.1 _ declared] at ends
      cases ends
    · rw [unmatched.2.2 _ declared] at ends
      cases ends
  · intro reserved
    exact ⟨aside.written, fun _ _ => endsWith_eq_false_of_not_isName reserved,
      fun _ _ => endsWith_eq_false_of_not_isName reserved⟩

theorem not_mem_missingFromContext_of_isName (named : IsName path.render)
    (written : path.render ∈ inventories.context) :
    path ∉ (ofInventories inventories).missingFromContext := by
  obtain ⟨name, rfl⟩ := exists_eq_field_of_isName named
  rw [render_field] at written
  rw [mem_missingFromContext_iff, not_and, Bool.not_eq_false]
  exact fun _ => NameSet.namesLeaf_iff.mpr ⟨name, rfl, written⟩

end Drift.Summary

namespace Comparison

open FieldPath

/-- No path is set aside for a name of the context that the same summary lists as unknown to schema
and XSD, and none that it lists as missing from the context. -/
def SubtractsConsistently (comparison : Comparison) : Prop :=
  ∀ path, comparison.inventories.SetAside path →
    path.render ∉ comparison.summary.onlyInContext ∧
      path ∉ comparison.summary.missingFromContext

variable {options : Options} {files : Files.FileSystem} {base : String}

theorem subtractsConsistently_run_iff :
    (run options files base).SubtractsConsistently ↔
      ∀ path, (run options files base).inventories.SetAside path → IsName path.render := by
  apply forall₂_congr
  intro path aside
  constructor
  · intro consistent
    by_contra reserved
    exact consistent.1 ((Drift.Summary.mem_onlyInContext_iff_of_setAside aside).mpr reserved)
  · intro named
    exact ⟨fun listed => (Drift.Summary.mem_onlyInContext_iff_of_setAside aside).mp listed named,
      Drift.Summary.not_mem_missingFromContext_of_isName named aside.written⟩

/-- A path of a schema is never written like a name. -/
theorem not_isName_of_mem_jsonSchema {path : FieldPath}
    (member : path ∈ (run options files base).inventories.jsonSchema) : ¬ IsName path.render := by
  intro named
  obtain ⟨name, rfl⟩ := exists_eq_field_of_isName named
  exact Nat.not_succ_le_self 1 (two_le_length_of_mem_jsonSchema member)

/-- A path that is set aside for a name of the context is listed neither as one of the schema nor as
one of the XSD, and the name is listed as unknown to both if and only if it could not stand in a path.
So the summary of a comparison is consistent if and only if no path of the schema alone is written
like a name of the context, and every path of the XSD alone that is written so is a bare name; for
that it is enough that all names of the context could stand in a path. -/
theorem subtraction_consistent_iff_names (options : Options) (files : Files.FileSystem)
    (base : String) :
    let comparison := run options files base
    let inventories := comparison.inventories
    (∀ path, inventories.SetAside path →
      path ∉ comparison.summary.onlyInSchema ∧ path ∉ comparison.summary.onlyInXsd ∧
        (path.render ∈ comparison.summary.onlyInContext ↔ ¬ IsName path.render)) ∧
    (comparison.SubtractsConsistently ↔
      (∀ path ∈ inventories.jsonSchema, path ∉ inventories.xsd →
        path.render ∉ inventories.context) ∧
      ∀ path ∈ inventories.xsd, path ∉ inventories.jsonSchema →
        path.render ∈ inventories.context → IsName path.render) ∧
    ((∀ name ∈ inventories.context, IsName name) → comparison.SubtractsConsistently) := by
  intro comparison inventories
  refine ⟨fun path aside => ?_, ?_, fun plain => ?_⟩
  · obtain ⟨notInSchema, notInXsd⟩ := Drift.Summary.not_listed_of_setAside aside
    exact ⟨notInSchema, notInXsd, Drift.Summary.mem_onlyInContext_iff_of_setAside aside⟩
  · rw [subtractsConsistently_run_iff]
    constructor
    · intro named
      exact ⟨fun path declared lacking written =>
          not_isName_of_mem_jsonSchema declared (named path (.ofSchema declared lacking written)),
        fun path declared lacking written => named path (.ofXsd declared lacking written)⟩
    · intro apart path aside
      cases aside with
      | ofSchema declared lacking written => exact absurd written (apart.1 path declared lacking)
      | ofXsd declared lacking written => exact apart.2 path declared lacking written
  · exact subtractsConsistently_run_iff.mpr fun path aside => plain _ aside.written

/-- A context whose only key is written like a path of the schema. -/
def filesWithDottedKey : Files.FileSystem :=
  .ofEntries [
    ("v1/schema.json", .file ("\x7b\"properties\": \x7b\"basics\": " ++
      "\x7b\"properties\": \x7b\"name\": 1\x7d\x7d\x7d\x7d").toUTF8),
    ("v1/context.jsonld", .file
      "\x7b\"@context\": \x7b\"basics.name\": \"schema:name\"\x7d\x7d".toUTF8),
    ("v1/xml/1.0/schema-resume.xsd", .file
      "<schema xmlns='http://www.w3.org/2001/XMLSchema'/>".toUTF8)]

/-- The field is not listed as one of the schema alone, since the context is taken to name it, and
both of the other lists say that the context does not. -/
theorem dotted_key_is_inconsistent :
    let comparison := run .standard filesWithDottedKey "v1"
    comparison.summary.onlyInSchema = [] ∧
    comparison.summary.onlyInContext = ["basics.name"] ∧
    comparison.summary.missingFromContext.map (·.render) = ["basics.name"] ∧
    ¬ comparison.SubtractsConsistently := by
  intro comparison
  let path : FieldPath := ⟨[⟨⟨"basics", by decide, by simp [isReserved]⟩, false⟩,
    ⟨⟨"name", by decide, by simp [isReserved]⟩, false⟩]⟩
  have found : (path ∈ comparison.inventories.jsonSchema.toList ∧
        path ∉ comparison.inventories.xsd.toList ∧
        path.render ∈ comparison.inventories.context.toList) ∧
      comparison.summary.onlyInSchema = [] ∧
      comparison.summary.onlyInContext = ["basics.name"] ∧
      comparison.summary.missingFromContext.map (·.render) = ["basics.name"] := by
    decide +kernel
  obtain ⟨⟨declared, lacking, written⟩, onlyInSchema, onlyInContext, missing⟩ := found
  refine ⟨onlyInSchema, onlyInContext, missing, fun consistent => ?_⟩
  have unlisted := (consistent path (.ofSchema declared lacking written)).1
  rw [onlyInContext] at unlisted
  exact unlisted (List.mem_singleton.mpr (by decide))

end Comparison

end Concord
