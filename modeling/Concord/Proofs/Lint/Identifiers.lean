import Concord.Proofs.Lint.Mappings

namespace Concord.Lint

/-! The warning of terms that are mapped to another vocabulary.

The warning speaks of fields, and the number of fields is counted just before it, but the terms that it
lists are chosen by their definitions alone.  The main statement says which terms these are, and that
they are the fields it speaks of as long as no keyword and no namespace is among them.
-/

open Context

/-- The merged context maps the term to an identifier of another vocabulary. -/
def IsForeignTerm (document : Json) (term : String) : Prop :=
  ∃ definition id, (merged document).get? term = some definition ∧
    definition.get? "@id" = some (.string id) ∧
    ∀ beginning ∈ ["schema:", "xsd:", "rdf:", "rdfs:"], id.startsWith beginning = false

/-- The terms that are mapped to another vocabulary. -/
def foreignTerms (document : Json) : List String :=
  ((merged document).entries.filter fun entry => isForeign entry.2).map (·.1)

/-- Those of them that are fields. -/
def foreignFields (document : Json) : List String := (foreignTerms document).filter isFieldKey

theorem isForeign_iff {definition : Json} :
    isForeign definition = true ↔ ∃ id, definition.get? "@id" = some (.string id) ∧
      ∀ beginning ∈ ["schema:", "xsd:", "rdf:", "rdfs:"], id.startsWith beginning = false := by
  unfold isForeign
  cases definition.get? "@id" with
  | none => simp
  | some value => cases value <;> simp [Json.string?, standardBeginnings]

/-- The warning of terms, which lists them in a text. -/
def identifiersRemark (text : String) : Remark :=
  ⟨.warning, "fields with non-standard @id: " ++ text⟩

theorem identifiersRemark_injective : Function.Injective identifiersRemark := by
  intro text other same
  exact (String.append_right_inj _).mp (congrArg Remark.text same)

section Checks

variable {context : Table String Json}

theorem identifiersRemark_not_mem_checkNamespaces (text : String) :
    identifiersRemark text ∉ checkNamespaces context := by
  intro member
  obtain ⟨name, has | missing⟩ := cases_of_mem_checkNamespaces member
  · cases congrArg Remark.severity has
  · exact absurd (Remark.letters_eq missing) (by simp [identifiersRemark])

theorem identifiersRemark_not_mem_checkVocabulary (text : String) :
    identifiersRemark text ∉ checkVocabulary context := by
  intro member
  rcases cases_of_mem_checkVocabulary member with url | ⟨value, other⟩
  · cases congrArg Remark.severity url
  · exact absurd (Remark.letters_eq other) (by simp [identifiersRemark])

theorem identifiersRemark_mem_checkMappings_iff {text : String} :
    identifiersRemark text ∈ checkMappings context ↔
      identifiersRemark text ∈ checkIdentifiers context := by
  have notCount : identifiersRemark text ≠ countRemark (fieldCount context) :=
    fun same => nomatch congrArg Remark.severity same
  have notPresent : identifiersRemark text ≠ ⟨.info, "has '@context' field"⟩ :=
    fun same => nomatch congrArg Remark.severity same
  simp only [mem_checkMappings_iff, notPresent, identifiersRemark_not_mem_checkNamespaces,
    identifiersRemark_not_mem_checkVocabulary, notCount, false_or]

end Checks

variable {document inner : Json} {term : String}

theorem mem_foreignTerms_iff : term ∈ foreignTerms document ↔ IsForeignTerm document term := by
  simp only [foreignTerms, List.mem_map, List.mem_filter, isForeign_iff]
  constructor
  · intro listed
    obtain ⟨⟨name, definition⟩, ⟨stored, id, given, foreign⟩, rfl⟩ := listed
    exact ⟨definition, id, Table.get?_eq_some_iff.mpr stored, given, foreign⟩
  · intro defined
    obtain ⟨definition, id, found, given, foreign⟩ := defined
    exact ⟨(term, definition), ⟨Table.get?_eq_some_iff.mp found, id, given, foreign⟩, rfl⟩

theorem foreignTerms_ascending (document : Json) : (foreignTerms document).Pairwise (· < ·) :=
  List.pairwise_map.mpr ((merged document).ascending.filter _)

/-- A term of the context is a field if it is extracted as one. -/
theorem isFieldKey_iff_mem_names (listed : term ∈ foreignTerms document) :
    isFieldKey term = true ↔ term ∈ names document := by
  have key : term ∈ (merged document).keys := by
    obtain ⟨entry, member, rfl⟩ := List.mem_map.mp listed
    exact List.mem_map_of_mem (List.mem_filter.mp member).1
  rw [← SortedSet.mem_toList, toList_names, List.mem_filter, and_iff_right key]

theorem mem_foreignFields_iff :
    term ∈ foreignFields document ↔ term ∈ names document ∧ IsForeignTerm document term := by
  rw [foreignFields, List.mem_filter, ← mem_foreignTerms_iff, and_comm]
  exact and_congr_left isFieldKey_iff_mem_names

theorem checkIdentifiers_merged (document : Json) :
    checkIdentifiers (merged document) =
      if (foreignTerms document).isEmpty then []
      else [identifiersRemark (", ".intercalate ((foreignTerms document).take 5))] := rfl

theorem identifiersRemark_mem_checkContext_iff (found : document.get? "@context" = some inner)
    (inline : IsInline inner) {text : String} :
    identifiersRemark text ∈ checkContext document ↔
      foreignTerms document ≠ [] ∧ text = ", ".intercalate ((foreignTerms document).take 5) := by
  rw [checkContext_of_inline found inline, identifiersRemark_mem_checkMappings_iff,
    checkIdentifiers_merged]
  cases foreignTerms document with
  | nil => simp
  | cons first rest =>
      rw [if_neg (by simp), List.mem_singleton, identifiersRemark_injective.eq_iff]
      simp

/-- The first items that satisfy something are the first items if and only if these satisfy it. -/
theorem forall_mem_take_iff {p : α → Bool} {items : List α} {count : Nat} :
    (∀ a ∈ items.take count, p a = true) ↔ items.take count = (items.filter p).take count := by
  constructor
  · intro each
    induction items generalizing count with
    | nil => rfl
    | cons head rest ih =>
        cases count with
        | zero => rfl
        | succ count =>
            obtain ⟨first, later⟩ := List.forall_mem_cons.mp each
            rw [List.filter_cons_of_pos first, List.take_succ_cons, List.take_succ_cons, ih later]
  · intro same a member
    rw [same] at member
    exact (List.mem_filter.mp (List.mem_of_mem_take member)).2

/-- The warning lists the first five terms that are mapped to another vocabulary, in their order, and
is there if there is such a term.  It does not ask whether a term is a field.  So what it lists are
fields, that is, names that are counted and extracted, if and only if no keyword and no namespace is
among the five; then they are the first five of the fields that are mapped so, and without such fields
there is no warning. -/
theorem warning_lists_foreign_terms {document inner : Json}
    (found : document.get? "@context" = some inner) (inline : IsInline inner) :
    let foreign := foreignTerms document
    let fields := foreignFields document
    (∀ term, term ∈ foreign ↔ IsForeignTerm document term) ∧ foreign.Pairwise (· < ·) ∧
    (∀ text, ⟨.warning, "fields with non-standard @id: " ++ text⟩ ∈ checkContext document ↔
      foreign ≠ [] ∧ text = ", ".intercalate (foreign.take 5)) ∧
    (∀ term, term ∈ fields ↔ term ∈ names document ∧ IsForeignTerm document term) ∧
    fields.Pairwise (· < ·) ∧
    (∀ term ∈ foreign, isFieldKey term = true ↔ term ∈ names document) ∧
    ((∀ term ∈ foreign.take 5, isFieldKey term = true) ↔ foreign.take 5 = fields.take 5) ∧
    ((∀ term ∈ foreign.take 5, isFieldKey term = true) →
      ∀ text, ⟨.warning, "fields with non-standard @id: " ++ text⟩ ∈ checkContext document ↔
        fields ≠ [] ∧ text = ", ".intercalate (fields.take 5)) := by
  intro foreign fields
  refine ⟨fun term => mem_foreignTerms_iff, foreignTerms_ascending document,
    fun text => identifiersRemark_mem_checkContext_iff found inline, fun term => mem_foreignFields_iff,
    (foreignTerms_ascending document).filter _, fun term => isFieldKey_iff_mem_names,
    forall_mem_take_iff, fun each text => ?_⟩
  have same : foreign.take 5 = fields.take 5 := forall_mem_take_iff.mp each
  have empty : foreign = [] ↔ fields = [] := by
    simpa using congrArg (· = []) same
  refine (identifiersRemark_mem_checkContext_iff found inline).trans ?_
  change foreign ≠ [] ∧ text = ", ".intercalate (foreign.take 5) ↔ _
  rw [same]
  exact and_congr_left' (not_congr empty)

/-- Six fields of another vocabulary, one of the schema's, and a namespace. -/
def foreignMembers : List (String × Json) :=
  ("schema", .string "https://schema.org/") :: ("name", .object [("@id", .string "schema:name")]) ::
    ["a", "b", "c", "d", "e", "f"].map fun field => (field, .object [("@id", .string ("ex:" ++ field))])

def foreignContext : Json := .object [("@context", .object foreignMembers)]

theorem five_of_six_foreign_fields_listed :
    foreignContext.get? "@context" = some (.object foreignMembers) ∧
    IsInline (.object foreignMembers) ∧
    (∀ term ∈ (foreignTerms foreignContext).take 5, isFieldKey term = true) ∧
    foreignFields foreignContext = ["a", "b", "c", "d", "e", "f"] ∧
    ⟨.warning, "fields with non-standard @id: a, b, c, d, e"⟩ ∈ checkContext foreignContext := by
  have found : foreignContext.get? "@context" = some (.object foreignMembers) := rfl
  have each : ∀ term ∈ (foreignTerms foreignContext).take 5, isFieldKey term = true := by
    decide +kernel
  obtain ⟨_, _, _, _, _, _, _, warned⟩ := warning_lists_foreign_terms found (.single _)
  exact ⟨found, .single _, each, by decide +kernel,
    (warned each "a, b, c, d, e").mpr (by decide +kernel)⟩

/-- A context that writes out what the namespace `schema` stands for. -/
def filesWithExpandedNamespace : Files.FileSystem :=
  .ofEntries [("v1/context.jsonld", .file
    ("\x7b\"@context\": \x7b\"schema\": \x7b\"@id\": " ++
      "\"https://schema.org/\"\x7d\x7d\x7d").toUTF8)]

/-- The namespace is listed as a field, although no field is counted or extracted. -/
theorem expanded_namespace_is_listed_as_field :
    let read := Sources.readJson filesWithExpandedNamespace "v1" .jsonLdContext
    ((run filesWithExpandedNamespace "v1").forFile .jsonLdContext).map (·.message) =
      ["valid JSON syntax", "has '@context' field", "has namespace: schema",
        "missing namespace: xsd", "contains 0 field mappings",
        "fields with non-standard @id: schema"] ∧
    isFieldKey "schema" = false ∧
    read.toOption.map (fun document =>
      ((names document).toList, foreignTerms document, foreignFields document)) =
      some ([], ["schema"], []) := by
  decide +kernel

end Concord.Lint
