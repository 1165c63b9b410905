import Concord.Comparison
import Concord.Proofs.Schema.Fields

namespace Concord.Schema

/-! The fields of a JSON Schema as chains of names.

A field stands at the end of a chain: a section, a field of the section, a field of that field, and
so on.  The walk over a schema is cut off at a depth, which bounds the length of the chain.  The main
statement is that the inventory holds exactly the chains within that bound.
-/

/-- The fields that a property of the schema has as a section, and whether they are those of its
items.  Its own `properties` come first. -/
inductive HoldsFields (property : Json) : Table String Json → Bool → Prop where
  | itself {fields : Table String Json} (listed : property.objectAt? "properties" = some fields) :
      HoldsFields property fields false
  | items {items : Json} {fields : Table String Json}
      (plain : property.objectAt? "properties" = none) (found : property.get? "items" = some items)
      (listed : items.objectAt? "properties" = some fields) : HoldsFields property fields true

/-- Names that lead down from some fields: the first is one of them, and each later one stands in
the `properties` of the one before it. -/
inductive Chain : Table String Json → List FieldName → Prop where
  | last {fields : Table String Json} {name : FieldName} {schema : Json}
      (declared : fields.get? name.text = some schema) : Chain fields [name]
  | cons {fields nested : Table String Json} {name : FieldName} {names : List FieldName}
      {schema : Json} (declared : fields.get? name.text = some schema)
      (listed : schema.objectAt? "properties" = some nested) (below : Chain nested names) :
      Chain fields (name :: names)

/-- The path of a section followed by unmarked names. -/
def chainPath (place : Segment) (names : List FieldName) : FieldPath :=
  ⟨place :: names.map fun name => { name, list := false }⟩

theorem Chain.length_pos {fields : Table String Json} {names : List FieldName}
    (chain : Chain fields names) : 1 ≤ names.length := by
  cases chain <;> simp

theorem holdsFields_iff {property : Json} {fields : Table String Json} {list : Bool} :
    HoldsFields property fields list ↔ sectionSchemas? property = some (fields, list) := by
  rw [sectionSchemas?]
  constructor
  · intro holds
    cases holds with
    | itself listed => rw [listed]
    | items plain found listed => rw [plain, found, Option.bind_some, listed, Option.map_some]
  · intro found
    split at found
    · rename_i listed
      cases found
      exact .itself listed
    · rename_i plain
      obtain ⟨_, listed, same⟩ := Option.map_eq_some_iff.mp found
      cases same
      obtain ⟨items, found, listed⟩ := Option.bind_eq_some_iff.mp listed
      exact .items plain found listed

/-- A chain leads down from the shapes of its fields. -/
theorem chain_iff_leads {schemas : Table String Json} {names : List FieldName} :
    Chain schemas names ↔ Leads (shapesOf schemas) names := by
  constructor
  · intro chain
    induction chain with
    | last declared => exact .last (mem_shapesOf_iff.mpr ⟨_, declared, rfl⟩)
    | cons declared listed _ ih =>
        have object := ofJson_eq_object_iff.mpr ⟨_, listed, rfl⟩
        exact .cons (mem_shapesOf_iff.mpr ⟨_, declared, object.symm⟩) ih
  · intro leads
    generalize shapes : shapesOf schemas = fields at leads
    induction leads generalizing schemas with
    | last declared =>
        subst shapes
        obtain ⟨schema, stored, _⟩ := mem_shapesOf_iff.mp declared
        exact .last stored
    | cons declared _ ih =>
        subst shapes
        obtain ⟨schema, stored, object⟩ := mem_shapesOf_iff.mp declared
        obtain ⟨nested, listed, same⟩ := ofJson_eq_object_iff.mp object.symm
        exact .cons stored listed (ih same.symm)

/-- The walk below a path lists the chains that are no longer than its depth. -/
theorem mem_fieldsBelow_iff_chain {depth : Nat} {above path : FieldPath}
    {schemas : Table String Json} :
    path ∈ fieldsBelow depth above (shapesOf schemas) ↔
      ∃ names, Chain schemas names ∧ (1 ≤ names.length ∧ names.length ≤ depth) ∧
        path = ⟨above.segments ++ names.map fun name => { name, list := false }⟩ := by
  rw [mem_fieldsBelow_iff_leads]
  constructor
  · intro reached
    obtain ⟨names, leads, short, here⟩ := reached
    have chain := chain_iff_leads.mpr leads
    exact ⟨names, chain, ⟨chain.length_pos, short⟩, here⟩
  · intro reached
    obtain ⟨names, chain, ⟨_, short⟩, here⟩ := reached
    exact ⟨names, chain_iff_leads.mp chain, short, here⟩

theorem mem_fields_iff_chain {depth : Nat} {schema : Json} {path : FieldPath} :
    path ∈ fields depth (.ofJson schema) ↔
      ∃ (properties : Table String Json) (name : FieldName) (property : Json)
        (nested : Table String Json) (list : Bool),
        schema.objectAt? "properties" = some properties ∧
        properties.get? name.text = some property ∧ name.text ∉ metadataKeys ∧
        HoldsFields property nested list ∧
        ∃ names, Chain nested names ∧ (1 ≤ names.length ∧ names.length ≤ depth) ∧
          path = chainPath { name, list } names := by
  simp only [mem_fields_ofJson_iff, mem_fieldsBelow_iff_chain, holdsFields_iff]
  rfl

theorem chainPath_inj {place other : Segment} {names others : List FieldName} :
    chainPath place names = chainPath other others ↔ place = other ∧ names = others := by
  rw [chainPath, chainPath, FieldPath.mk.injEq, List.cons.injEq, List.map_inj_right]
  intro name other same
  exact (Segment.mk.inj same).1

/-- Only a section may be marked, and it is no field by itself. -/
theorem shape_of_mem_fields {depth : Nat} {schema : Json} {path : FieldPath}
    (member : path ∈ fields depth (.ofJson schema)) :
    2 ≤ path.length ∧ ∀ segment ∈ path.segments.tail, segment.list = false := by
  obtain ⟨_, _, _, _, _, _, _, _, _, names, _, ⟨some, _⟩, rfl⟩ := mem_fields_iff_chain.mp member
  refine ⟨by simpa [chainPath, FieldPath.length] using some, ?_⟩
  intro segment below
  obtain ⟨name, _, rfl⟩ := List.mem_map.mp below
  rfl

/-- The inventory of a JSON Schema holds a path for each chain of at least one and at most `depth`
names below a section, and no other path.  Different sections or chains have different paths, only
the section of a path may be marked, and a schema that could be loaded adds nothing to the issues of
a comparison. -/
theorem fields_are_chains (depth : Nat) (schema : Json) :
    (∀ path, path ∈ fields depth (.ofJson schema) ↔
      ∃ (properties : Table String Json) (name : FieldName) (property : Json)
        (nested : Table String Json) (list : Bool),
        schema.objectAt? "properties" = some properties ∧
        properties.get? name.text = some property ∧
        name.text ∉ ["$schema", "@type", "additionalType"] ∧
        HoldsFields property nested list ∧
        ∃ names, Chain nested names ∧ (1 ≤ names.length ∧ names.length ≤ depth) ∧
          path = chainPath { name, list } names) ∧
    (∀ place other names others, (chainPath place names).render = (chainPath other others).render ↔
      place = other ∧ names = others) ∧
    (fields depth (.ofJson schema)).toList.all
      (fun path => path.segments.tail.all fun segment => !segment.list) = true ∧
    (∀ options baseDir sources,
      (Comparison.ofSources options baseDir { sources with jsonSchema := .ok schema }).issues =
        [.jsonLdContext, .metaSchema, .xsd].filterMap sources.failureOf? ++
          Comparison.gaps options sources) := by
  refine ⟨fun path => mem_fields_iff_chain, fun place other names others => ?_, ?_,
    fun options baseDir sources => rfl⟩
  · rw [← chainPath_inj]
    exact ⟨FieldPath.render_injective, congrArg FieldPath.render⟩
  · rw [List.all_eq_true]
    intro path member
    obtain ⟨_, _, _, _, _, _, _, _, _, names, _, _, rfl⟩ := mem_fields_iff_chain.mp member
    simp [chainPath]

end Concord.Schema
