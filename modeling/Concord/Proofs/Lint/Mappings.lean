import Concord.Proofs.Context
import Concord.Proofs.Lint.Blocks
import Concord.Proofs.Comparison.Isolation

namespace Concord.Lint

/-! What is said of the terms of a context.

The remarks on a context come from several checks, and for each of them one lemma says what it can
remark on.  So the number of fields can be looked for in the report by itself.  The main statement is
that it is the number of names that a comparison takes from the same context.
-/

open Context

variable {context : Table String Json} {remark : Remark}

theorem Remark.letters_eq {other : Remark} (same : remark = other) :
    remark.text.toList = other.text.toList := by
  rw [same]

theorem cases_of_mem_checkNamespaces (member : remark ∈ checkNamespaces context) :
    ∃ name, remark = ⟨.info, "has namespace: " ++ name⟩ ∨
      remark = ⟨.warning, "missing namespace: " ++ name⟩ := by
  obtain ⟨name, _, rfl⟩ := List.mem_map.mp member
  refine ⟨name, ?_⟩
  split
  · exact .inl rfl
  · exact .inr rfl

theorem cases_of_mem_checkVocabulary (member : remark ∈ checkVocabulary context) :
    remark = ⟨.info, "@vocab is a URL"⟩ ∨
      ∃ value : Json, remark = ⟨.warning, "@vocab should be a URL: " ++ value.compact⟩ := by
  unfold checkVocabulary at member
  split at member
  · split at member
    · exact .inl (List.mem_singleton.mp member)
    · exact .inr ⟨_, List.mem_singleton.mp member⟩
  · cases member

theorem severity_of_mem_checkIdentifiers (member : remark ∈ checkIdentifiers context) :
    remark.severity = .warning := by
  simp only [checkIdentifiers] at member
  split at member
  · cases member
  · rw [List.mem_singleton.mp member, severity_warning]

/-- The number of fields, on which every context is remarked. -/
def countRemark (count : Nat) : Remark :=
  ⟨.info, "contains " ++ toString count ++ " field mappings"⟩

theorem countRemark_injective : Function.Injective countRemark := by
  intro count other same
  have digits : Nat.toDigits 10 count = Nat.toDigits 10 other := by
    simpa [countRemark, Nat.repr_eq_ofList_toDigits] using Remark.letters_eq same
  calc
    count = Nat.ofDigitChars 10 (Nat.toDigits 10 count) 0 := Nat.ofDigitChars_ten_toDigits.symm
    _ = Nat.ofDigitChars 10 (Nat.toDigits 10 other) 0 := by rw [digits]
    _ = other := Nat.ofDigitChars_ten_toDigits

theorem mem_checkMappings_iff :
    remark ∈ checkMappings context ↔
      remark = ⟨.info, "has '@context' field"⟩ ∨ remark ∈ checkNamespaces context ∨
        remark ∈ checkVocabulary context ∨ remark = countRemark (fieldCount context) ∨
        remark ∈ checkIdentifiers context := by
  simp only [checkMappings, List.mem_append, List.mem_singleton, or_assoc]
  rfl

theorem countRemark_ne_present (count : Nat) :
    countRemark count ≠ ⟨.info, "has '@context' field"⟩ :=
  fun same => absurd (Remark.letters_eq same) (by simp [countRemark])

theorem countRemark_not_mem_checkNamespaces (count : Nat) :
    countRemark count ∉ checkNamespaces context := by
  intro member
  obtain ⟨name, has | missing⟩ := cases_of_mem_checkNamespaces member
  · exact absurd (Remark.letters_eq has) (by simp [countRemark])
  · cases congrArg Remark.severity missing

theorem countRemark_not_mem_checkVocabulary (count : Nat) :
    countRemark count ∉ checkVocabulary context := by
  intro member
  rcases cases_of_mem_checkVocabulary member with url | ⟨value, other⟩
  · exact absurd (Remark.letters_eq url) (by simp [countRemark])
  · cases congrArg Remark.severity other

theorem countRemark_not_mem_checkIdentifiers (count : Nat) :
    countRemark count ∉ checkIdentifiers context :=
  fun member => nomatch severity_of_mem_checkIdentifiers member

theorem countRemark_mem_checkMappings_iff {count : Nat} :
    countRemark count ∈ checkMappings context ↔ count = fieldCount context := by
  simp only [mem_checkMappings_iff, countRemark_ne_present, countRemark_not_mem_checkNamespaces,
    countRemark_not_mem_checkVocabulary, countRemark_not_mem_checkIdentifiers, false_or, or_false,
    countRemark_injective.eq_iff]

section Document

variable {document inner : Json} {files : Files.FileSystem} {base : String}

theorem checkContext_of_inline (found : document.get? "@context" = some inner)
    (inline : IsInline inner) : checkContext document = checkMappings (merged document) := by
  cases inline <;> simp [checkContext, found]

theorem fieldCount_merged (document : Json) :
    fieldCount (merged document) = (names document).size := by
  rw [fieldCount, ← toList_names, SortedSet.toList, Table.keys, List.length_map]
  rfl

theorem countRemark_mem_checkContext_iff (found : document.get? "@context" = some inner)
    (inline : IsInline inner) {count : Nat} :
    countRemark count ∈ checkContext document ↔ count = (names document).size := by
  rw [checkContext_of_inline found inline, countRemark_mem_checkMappings_iff, fieldCount_merged]

/-- A finding of a run is one on the file that it is attributed to. -/
theorem of_mem_findings_run_iff {representation : Representation} {remark : Remark} :
    remark.of representation ∈ (run files base).findings ↔
      remark.of representation ∈ blockOf (.load files base) representation := by
  rw [← forFile_run, Report.forFile, List.mem_filter]
  simp [Remark.of]

theorem mem_findings_of_context_iff
    (read : Sources.readJson files base .jsonLdContext = .ok document) (remark : Remark) :
    remark.of .jsonLdContext ∈ (run files base).findings ↔
      remark = ⟨.info, "valid JSON syntax"⟩ ∨ remark ∈ checkContext document := by
  have loaded : (Sources.load files base).context = .ok document := read
  have injective : Function.Injective (Remark.of · .jsonLdContext) := by
    intro remark other same
    cases remark
    cases other
    cases same
    rfl
  rw [of_mem_findings_run_iff, blockOf, loaded, block, List.mem_map_of_injective injective,
    List.mem_cons]
  rfl

theorem context_run_of_read {options : Comparison.Options}
    (read : Sources.readJson files base .jsonLdContext = .ok document) :
    (Comparison.run options files base).inventories.context = names document := by
  have loaded : (Sources.load files base).context = .ok document := read
  simp [Comparison.run, Comparison.ofSources, Comparison.inventoriesOf, Comparison.declared, loaded]

end Document

/-- For a context that is one object or several entries, the number of field mappings that is remarked
on is the number of names extracted from it, so that a lint run gives the size of the inventory that a
comparison of the same files has.  Extraction goes by the keys alone: it takes the same names from the
inline objects merged into one, and from the entries rearranged. -/
theorem field_count_is_number_of_names {document inner : Json}
    (found : document.get? "@context" = some inner) (inline : IsInline inner) :
    (∀ count : Nat,
      ⟨.info, "contains " ++ toString count ++ " field mappings"⟩ ∈ checkContext document ↔
        count = (names document).size) ∧
    (∀ options files base, Sources.readJson files base .jsonLdContext = .ok document →
      ∀ count : Nat,
        ⟨.jsonLdContext, .info, "contains " ++ toString count ++ " field mappings"⟩ ∈
            (run files base).findings ↔
          count = (Comparison.run options files base).inventories.context.size) ∧
    (∀ other : Json, other.get? "@context" = some (.ofTable (merged document)) →
      names other = names document) ∧
    ∀ (entries rearranged : List Json) (other : Json), inner = .array entries →
      Rearranged entries rearranged → other.get? "@context" = some (.array rearranged) →
        names other = names document := by
  refine ⟨fun count => countRemark_mem_checkContext_iff found inline, ?_, fun other joined =>
    names_eq_of_merged joined, ?_⟩
  · intro options files base read count
    have other : countRemark count ≠ ⟨.info, "valid JSON syntax"⟩ :=
      fun same => absurd (Remark.letters_eq same) (by simp [countRemark])
    rw [context_run_of_read read, ← countRemark_mem_checkContext_iff found inline]
    exact (mem_findings_of_context_iff read (countRemark count)).trans (or_iff_right other)
  · rintro entries rearranged other rfl same otherFound
    exact names_eq_of_rearranged found otherFound same

def layeredEntries : List Json :=
  [.string "https://schema.org/",
    .object [("name", .string "schema:name"), ("schema", .string "https://schema.org/")],
    .object [("email", .string "schema:email"), ("name", .string "schema:alternateName")]]

/-- Two fields in two objects, of which one is defined twice. -/
def layeredContext : Json := .object [("@context", .array layeredEntries)]

/-- The same definitions in one object. -/
def flatEntries : List Json :=
  [.object [("email", .string "schema:email"), ("name", .string "schema:alternateName"),
    ("name", .string "schema:name"), ("schema", .string "https://schema.org/")]]

theorem layered_context_has_two_fields :
    layeredContext.get? "@context" = some (.array layeredEntries) ∧
    IsInline (.array layeredEntries) ∧ Rearranged layeredEntries flatEntries ∧
    ⟨.info, "contains 2 field mappings"⟩ ∈ checkContext layeredContext ∧
    names (.object [("@context", .array flatEntries)]) = names layeredContext := by
  have found : layeredContext.get? "@context" = some (.array layeredEntries) := rfl
  have swapped : Rearranged layeredEntries flatEntries :=
    (Rearranged.ignore _ rfl).trans ((Rearranged.reorder (.swap _ _ [])).trans
      (Rearranged.symm (Rearranged.split [] (.refl _))))
  obtain ⟨counted, _, _, rearranged⟩ := field_count_is_number_of_names found (.several _)
  exact ⟨found, .several _, swapped, (counted 2).mpr (by decide +kernel),
    rearranged _ _ _ rfl swapped rfl⟩

end Concord.Lint
