import Concord.Lint.Checks
import Concord.Proofs.Json.Members

namespace Concord.Lint

/-! When a check reports an error.

Most checks only count and recommend.  Errors come from members that a schema must have, from a
pattern for dates that is none, from a document without a context, and from the wrong root of an
XSD; for each of these, and for each document as a whole, one lemma says when there is no error.
-/

def NoError (remarks : List Remark) : Prop := ∀ remark ∈ remarks, remark.severity ≠ .error

@[simp] theorem noError_nil : NoError [] := by
  simp [NoError]

@[simp] theorem noError_cons {remark : Remark} {rest : List Remark} :
    NoError (remark :: rest) ↔ remark.severity ≠ .error ∧ NoError rest :=
  List.forall_mem_cons

@[simp] theorem noError_append {remarks others : List Remark} :
    NoError (remarks ++ others) ↔ NoError remarks ∧ NoError others :=
  List.forall_mem_append

theorem noError_map {say : α → Remark} {items : List α} :
    NoError (items.map say) ↔ ∀ item ∈ items, (say item).severity ≠ .error :=
  List.forall_mem_map

theorem noError_flatMap {say : α → List Remark} (each : ∀ item, NoError (say item))
    (items : List α) : NoError (items.flatMap say) := by
  intro remark member
  obtain ⟨item, _, said⟩ := List.mem_flatMap.mp member
  exact each item remark said

/-- An object that has the members of these names. -/
def HasMembers (names : List String) (document : Json) : Prop :=
  ∃ members, document = .object members ∧ ∀ name ∈ names, name ∈ members.map (·.1)

/-- The document defines what a date is by a pattern. -/
def HasDatePattern (document : Json) (pattern : String) : Prop :=
  ∃ definitions entry, document.get? "definitions" = some (.object definitions) ∧
    (Json.object definitions).get? "iso8601" = some entry ∧
    entry.get? "pattern" = some (.string pattern)

theorem hasMembers_requiredKeys_iff {document : Json} :
    HasMembers requiredKeys document ↔
      ∀ name ∈ requiredKeys, (document.get? name).isSome = true := by
  constructor
  · intro has
    obtain ⟨members, rfl, each⟩ := has
    exact fun name listed => Json.isSome_lastValue?_iff.mpr (each name listed)
  · intro each
    cases document with
    | object members =>
        exact ⟨members, rfl, fun name listed => Json.isSome_lastValue?_iff.mp (each name listed)⟩
    | _ => exact absurd (each "$id" (by decide)) Bool.false_ne_true

theorem noError_checkRequiredKeys_iff {document : Json} :
    NoError (checkRequiredKeys document) ↔ HasMembers requiredKeys document := by
  rw [checkRequiredKeys, noError_map, hasMembers_requiredKeys_iff]
  apply forall₂_congr
  intro name _
  split <;> simp [*]

theorem noError_checkBasics (basics : Json) : NoError (checkBasics basics) := by
  unfold checkBasics
  split
  · rw [noError_cons]
    refine ⟨by simp, noError_flatMap (fun field remark member => ?_) _⟩
    simp [severity_of_mem_sayUnless member]
  · exact noError_nil

theorem noError_checkSections (document : Json) : NoError (checkSections document) := by
  unfold checkSections
  split
  · rw [noError_cons]
    refine ⟨by simp, ?_⟩
    split
    · exact noError_checkBasics _
    · simp
  · exact noError_nil

theorem hasDatePattern_iff {document : Json} {pattern : String} :
    HasDatePattern document pattern ↔
      ∃ definitions, document.objectAt? "definitions" = some definitions ∧
        datePattern? definitions = some pattern := by
  constructor
  · intro has
    obtain ⟨members, entry, found, stored, written⟩ := has
    refine ⟨.ofList members, Json.objectAt?_eq_some_iff.mpr ⟨_, found, rfl⟩, ?_⟩
    have listed : (Json.object members).members? = some (.ofList members) := rfl
    rw [datePattern?, Json.get?_of_members? listed, stored, Option.bind_some, written]
    rfl
  · intro given
    obtain ⟨definitions, listed, given⟩ := given
    obtain ⟨inner, found, members⟩ := Json.objectAt?_eq_some_iff.mp listed
    obtain ⟨value, reached, text⟩ := Option.bind_eq_some_iff.mp given
    obtain ⟨entry, stored, written⟩ := Option.bind_eq_some_iff.mp reached
    rw [Json.get?_of_members? members] at stored
    cases inner with
    | object inner =>
        cases value with
        | string value =>
            cases text
            exact ⟨inner, entry, found, stored, written⟩
        | _ => cases text
    | _ => cases members

theorem severity_checkDatePattern_iff {pattern : String} :
    (checkDatePattern pattern).severity ≠ .error ↔ Regex.isPattern pattern = true := by
  unfold checkDatePattern
  split <;> simp [*]

theorem noError_checkDefinitions_iff {document : Json} :
    NoError (checkDefinitions document) ↔
      ∀ pattern, HasDatePattern document pattern → Regex.isPattern pattern = true := by
  simp only [hasDatePattern_iff]
  unfold checkDefinitions
  cases document.objectAt? "definitions" with
  | none => simp
  | some definitions =>
      cases given : datePattern? definitions with
      | none => simp [given]
      | some pattern => simp [given, severity_checkDatePattern_iff]

theorem noError_checkSchema_iff {document : Json} :
    NoError (checkSchema document) ↔
      HasMembers requiredKeys document ∧
        ∀ pattern, HasDatePattern document pattern → Regex.isPattern pattern = true := by
  rw [checkSchema, noError_append, noError_append, noError_checkRequiredKeys_iff,
    noError_checkDefinitions_iff, and_iff_left (noError_checkSections document)]

theorem noError_checkNamespaces (context : Table String Json) :
    NoError (checkNamespaces context) := by
  rw [checkNamespaces, noError_map]
  intro name _
  split <;> simp

theorem noError_checkVocabulary (context : Table String Json) :
    NoError (checkVocabulary context) := by
  unfold checkVocabulary
  split
  · split <;> simp
  · exact noError_nil

theorem noError_checkIdentifiers (context : Table String Json) :
    NoError (checkIdentifiers context) := by
  simp only [checkIdentifiers]
  split <;> simp

theorem noError_checkMappings (context : Table String Json) : NoError (checkMappings context) := by
  simp [checkMappings, noError_checkNamespaces, noError_checkVocabulary, noError_checkIdentifiers]

/-- What may stand as a context: a reference, one context, or several. -/
inductive IsContext : Json → Prop where
  | remote (reference : String) : IsContext (.string reference)
  | inline (members : List (String × Json)) : IsContext (.object members)
  | several (items : List Json) : IsContext (.array items)

theorem noError_checkContext_iff {document : Json} :
    NoError (checkContext document) ↔
      ∃ context, document.get? "@context" = some context ∧ IsContext context := by
  unfold checkContext
  cases document.get? "@context" with
  | none => simp
  | some context =>
      simp only [Option.some.injEq, exists_eq_left']
      cases context with
      | string reference => simp [IsContext.remote]
      | object members => simp [IsContext.inline, noError_checkMappings]
      | array items => simp [IsContext.several, noError_checkMappings]
      | _ =>
          refine iff_of_false (by simp) ?_
          intro written
          cases written

theorem noError_checkSelfReference (document : Json) : NoError (checkSelfReference document) := by
  unfold checkSelfReference
  split
  · split <;> simp
  · exact noError_nil

theorem noError_checkMembers (document : Json) (name counted missing : String)
    (expected : List String) : NoError (checkMembers document name counted missing expected) := by
  unfold checkMembers
  split
  · rw [noError_cons]
    refine ⟨by simp, noError_flatMap (fun key remark member => ?_) _⟩
    simp [severity_of_mem_sayUnless member]
  · exact noError_nil

theorem noError_checkMetaSchema_iff {document : Json} :
    NoError (checkMetaSchema document) ↔ HasMembers requiredKeys document := by
  simp only [checkMetaSchema, noError_append, noError_checkRequiredKeys_iff,
    noError_checkSelfReference, noError_checkMembers, and_true]

theorem noError_checkTypePrefix (declaration : Xsd.ElementDeclaration) :
    NoError (checkTypePrefix declaration) := by
  unfold checkTypePrefix
  split
  · intro remark member
    simp [severity_of_mem_sayUnless member]
  · exact noError_nil

theorem severity_checkRoot_iff {document : Xsd.Document} :
    (checkRoot document).severity ≠ .error ↔
      document.root = ⟨some Xsd.namespaceUri, "schema"⟩ := by
  unfold checkRoot Xsd.isNamed
  split <;> simp_all

theorem severity_checkTargetNamespace (document : Xsd.Document) :
    (checkTargetNamespace document).severity ≠ .error := by
  unfold checkTargetNamespace
  split <;> simp

theorem noError_countTypes (document : Xsd.Document) : NoError (countTypes document) := by
  rw [countTypes, noError_cons]
  refine ⟨by simp, ?_⟩
  split <;> simp

theorem severity_checkRootElements (document : Xsd.Document) :
    (checkRootElements document).severity ≠ .error := by
  unfold checkRootElements
  split <;> simp

theorem severity_checkBasicsType (document : Xsd.Document) :
    (checkBasicsType document).severity ≠ .error := by
  unfold checkBasicsType
  split <;> simp

theorem noError_checkXsd_iff {document : Xsd.Document} :
    NoError (checkXsd document) ↔ document.root = ⟨some Xsd.namespaceUri, "schema"⟩ := by
  have types : NoError (document.elements.flatMap checkTypePrefix) :=
    noError_flatMap noError_checkTypePrefix _
  rw [← severity_checkRoot_iff]
  simp [checkXsd, types, severity_checkTargetNamespace, noError_countTypes,
    severity_checkRootElements, severity_checkBasicsType]

end Concord.Lint
