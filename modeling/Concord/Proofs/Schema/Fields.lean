import Concord.Proofs.FieldPath.Reading
import Concord.Proofs.Json.Members
import Concord.Schema.Fields

namespace Concord.Schema

/-! The inventory of a JSON Schema, in terms of its document.

The document is first reduced to its shape, and the shape is then walked.  The main statements leave
the shape out: they say which members of the document make a path one of its fields.
-/

def shapesOf (schemas : Table String Json) : List (String × Shape) :=
  schemas.entries.map fun entry => (entry.1, .ofJson entry.2)

theorem mem_shapesOf_iff {schemas : Table String Json} {name : String} {shape : Shape} :
    (name, shape) ∈ shapesOf schemas ↔
      ∃ schema, schemas.get? name = some schema ∧ shape = .ofJson schema := by
  rw [shapesOf, List.mem_map]
  constructor
  · intro listed
    obtain ⟨⟨name, schema⟩, member, same⟩ := listed
    cases same
    exact ⟨schema, Table.get?_eq_some_iff.mpr member, rfl⟩
  · intro found
    obtain ⟨schema, found, rfl⟩ := found
    exact ⟨(name, schema), Table.get?_eq_some_iff.mp found, rfl⟩

/-- The fields that stand directly in the `properties` of a section, or in those of its `items`
when it has none itself, and whether the section is a list. -/
def sectionSchemas? (property : Json) : Option (Table String Json × Bool) :=
  match property.objectAt? "properties" with
  | some fields => some (fields, false)
  | none =>
      ((property.get? "items").bind fun items => items.objectAt? "properties").map
        fun fields => (fields, true)

theorem ofJson_eq (schema : Json) :
    Shape.ofJson schema =
      match schema.objectAt? "properties" with
      | some schemas => .object (shapesOf schemas)
      | none =>
          match schema.get? "items" with
          | some items => if items.isObject then .array (.ofJson items) else .scalar
          | none => .scalar := by
  rw [Shape.ofJson]
  split
  · rename_i schemas listed
    simp only [listed, shapesOf]
    congr 1
    exact List.attach_map_val (f := fun entry : String × Json => (entry.1, Shape.ofJson entry.2))
  · rename_i absent
    rw [absent]
    cases schema.get? "items" <;> rfl

theorem fields?_ofJson (schema : Json) :
    (Shape.ofJson schema).fields? = (schema.objectAt? "properties").map shapesOf := by
  rw [ofJson_eq]
  cases schema.objectAt? "properties" with
  | some schemas => rfl
  | none =>
      cases schema.get? "items" with
      | none => rfl
      | some items => cases object : items.isObject <;> simp [object, Shape.fields?]

theorem sectionFields?_ofJson (property : Json) :
    sectionFields? (.ofJson property) =
      (sectionSchemas? property).map fun found => (shapesOf found.1, found.2) := by
  rw [ofJson_eq, sectionSchemas?]
  cases property.objectAt? "properties" with
  | some schemas => rfl
  | none =>
      cases property.get? "items" with
      | none => rfl
      | some items =>
          cases object : items.isObject with
          | true => simp [object, sectionFields?, fields?_ofJson, Function.comp_def]
          | false =>
              have absent : items.objectAt? "properties" = none := by
                cases items <;> first | rfl | cases object
              simp [object, sectionFields?, absent]

/-- One level of the walk: a field, or what stands below a field that has fields of its own. -/
theorem mem_fieldsBelow_succ_iff {depth : Nat} {above path : FieldPath}
    {fields : List (String × Shape)} :
    path ∈ fieldsBelow (depth + 1) above fields ↔
      ∃ (name : FieldName) (shape : Shape), (name.text, shape) ∈ fields ∧
        (path = above.child name ∨
          ∃ nested, shape = .object nested ∧
            path ∈ fieldsBelow depth (above.child name) nested) := by
  rw [fieldsBelow, List.mem_flatMap]
  constructor
  · intro listed
    obtain ⟨⟨written, shape⟩, member, found⟩ := listed
    cases read : FieldName.ofString? written with
    | none => simp [read] at found
    | some name =>
        obtain rfl := FieldName.ofString?_eq_some_iff.mp read
        refine ⟨name, shape, member, ?_⟩
        simp only [read, List.mem_cons] at found
        rcases found with here | below
        · exact .inl here
        · cases shape with
          | object nested => exact .inr ⟨nested, rfl, below⟩
          | scalar => simp at below
          | array item => simp at below
  · intro declared
    obtain ⟨name, shape, member, place⟩ := declared
    refine ⟨(name.text, shape), member, ?_⟩
    have read : FieldName.ofString? name.text = some name :=
      FieldName.ofString?_eq_some_iff.mpr rfl
    simp only [read, List.mem_cons]
    rcases place with here | ⟨nested, rfl, below⟩
    · exact .inl here
    · exact .inr below

theorem ofJson_eq_object_iff {schema : Json} {nested : List (String × Shape)} :
    Shape.ofJson schema = .object nested ↔
      ∃ schemas, schema.objectAt? "properties" = some schemas ∧ nested = shapesOf schemas := by
  have object : Shape.ofJson schema = .object nested ↔
      (Shape.ofJson schema).fields? = some nested := by
    cases Shape.ofJson schema <;> simp [Shape.fields?]
  rw [object, fields?_ofJson, Option.map_eq_some_iff]
  simp only [eq_comm]

theorem mem_fieldsBelow_shapesOf_iff {depth : Nat} {above path : FieldPath}
    {schemas : Table String Json} :
    path ∈ fieldsBelow (depth + 1) above (shapesOf schemas) ↔
      ∃ (name : FieldName) (schema : Json), schemas.get? name.text = some schema ∧
        (path = above.child name ∨
          ∃ nested, schema.objectAt? "properties" = some nested ∧
            path ∈ fieldsBelow depth (above.child name) (shapesOf nested)) := by
  rw [mem_fieldsBelow_succ_iff]
  constructor
  · intro listed
    obtain ⟨name, shape, member, place⟩ := listed
    obtain ⟨schema, stored, rfl⟩ := mem_shapesOf_iff.mp member
    refine ⟨name, schema, stored, place.imp_right ?_⟩
    intro deeper
    obtain ⟨nested, object, below⟩ := deeper
    obtain ⟨schemas, listed, rfl⟩ := ofJson_eq_object_iff.mp object
    exact ⟨schemas, listed, below⟩
  · intro declared
    obtain ⟨name, schema, stored, place⟩ := declared
    refine ⟨name, .ofJson schema, mem_shapesOf_iff.mpr ⟨schema, stored, rfl⟩, place.imp_right ?_⟩
    intro deeper
    obtain ⟨nested, listed, below⟩ := deeper
    exact ⟨shapesOf nested, ofJson_eq_object_iff.mpr ⟨nested, listed, rfl⟩, below⟩

/-- Names that lead down from some fields: the first is one of them, and each later one is a field of
the one before it. -/
inductive Leads : List (String × Shape) → List FieldName → Prop where
  | last {fields : List (String × Shape)} {name : FieldName} {shape : Shape}
      (declared : (name.text, shape) ∈ fields) : Leads fields [name]
  | cons {fields nested : List (String × Shape)} {name : FieldName} {names : List FieldName}
      (declared : (name.text, .object nested) ∈ fields) (below : Leads nested names) :
      Leads fields (name :: names)

/-- The walk below a path lists the names that lead down, as far as its depth goes. -/
theorem mem_fieldsBelow_iff_leads {depth : Nat} {above path : FieldPath}
    {fields : List (String × Shape)} :
    path ∈ fieldsBelow depth above fields ↔
      ∃ names, Leads fields names ∧ names.length ≤ depth ∧
        path = ⟨above.segments ++ names.map fun name => { name, list := false }⟩ := by
  induction depth generalizing above fields with
  | zero =>
      constructor
      · intro listed
        cases listed
      · intro reached
        obtain ⟨names, leads, short, _⟩ := reached
        cases leads <;> simp at short
  | succ depth ih =>
      rw [mem_fieldsBelow_succ_iff]
      simp only [ih]
      constructor
      · intro reached
        obtain ⟨name, shape, declared, here | ⟨nested, rfl, names, leads, short, below⟩⟩ := reached
        · exact ⟨[name], .last declared, by simp, here⟩
        · refine ⟨name :: names, .cons declared leads, by simpa using short, ?_⟩
          simpa [FieldPath.child, FieldPath.append] using below
      · intro reached
        obtain ⟨names, leads, short, rfl⟩ := reached
        cases leads with
        | last declared => exact ⟨_, _, declared, .inl rfl⟩
        | cons declared below =>
            have short := Nat.le_of_succ_le_succ short
            refine ⟨_, _, declared, .inr ⟨_, rfl, _, below, short, ?_⟩⟩
            simp [FieldPath.child, FieldPath.append]

/-- A field stands in the walk below one of the sections. -/
theorem mem_fields_iff {depth : Nat} {schema : Shape} {path : FieldPath} :
    path ∈ fields depth schema ↔
      ∃ (sections : List (String × Shape)) (name : FieldName) (shape : Shape)
        (nested : List (String × Shape)) (list : Bool),
        schema.fields? = some sections ∧ (name.text, shape) ∈ sections ∧
        name.text ∉ metadataKeys ∧ sectionFields? shape = some (nested, list) ∧
        path ∈ fieldsBelow depth ⟨[{ name, list }]⟩ nested := by
  rw [fields, SortedSet.mem_ofList, List.mem_flatMap]
  constructor
  · intro listed
    obtain ⟨⟨written, shape⟩, member, found⟩ := listed
    cases listed : schema.fields? with
    | none => simp [listed] at member
    | some sections =>
        rw [listed, Option.getD_some] at member
        simp only [fieldsOfSection] at found
        split at found
        · cases found
        · rename_i plain
          split at found
          · rename_i nested list name sectionFound read
            obtain rfl := FieldName.ofString?_eq_some_iff.mp read
            exact ⟨sections, name, shape, nested, list, rfl, member, by simpa using plain,
              sectionFound, found⟩
          · cases found
  · intro declared
    obtain ⟨sections, name, shape, nested, list, listed, member, plain, sectionFound, below⟩ :=
      declared
    refine ⟨(name.text, shape), by simpa [listed] using member, ?_⟩
    have read : FieldName.ofString? name.text = some name :=
      FieldName.ofString?_eq_some_iff.mpr rfl
    simp only [fieldsOfSection, sectionFound, read]
    rw [if_neg (by simpa using plain)]
    exact below

theorem mem_fields_ofJson_iff {depth : Nat} {schema : Json} {path : FieldPath} :
    path ∈ fields depth (.ofJson schema) ↔
      ∃ (properties : Table String Json) (name : FieldName) (property : Json)
        (nested : Table String Json) (list : Bool),
        schema.objectAt? "properties" = some properties ∧
        properties.get? name.text = some property ∧ name.text ∉ metadataKeys ∧
        sectionSchemas? property = some (nested, list) ∧
        path ∈ fieldsBelow depth ⟨[{ name, list }]⟩ (shapesOf nested) := by
  rw [mem_fields_iff, fields?_ofJson]
  constructor
  · intro listed
    obtain ⟨_, name, _, _, _, listed, member, plain, sectionFound, below⟩ := listed
    obtain ⟨properties, standing, rfl⟩ := Option.map_eq_some_iff.mp listed
    obtain ⟨property, stored, rfl⟩ := mem_shapesOf_iff.mp member
    rw [sectionFields?_ofJson] at sectionFound
    obtain ⟨⟨nested, list⟩, found, same⟩ := Option.map_eq_some_iff.mp sectionFound
    cases same
    exact ⟨properties, name, property, nested, list, standing, stored, plain, found, below⟩
  · intro declared
    obtain ⟨properties, name, property, nested, list, standing, stored, plain, found, below⟩ :=
      declared
    refine ⟨shapesOf properties, name, .ofJson property, shapesOf nested, list, ?_,
      mem_shapesOf_iff.mpr ⟨property, stored, rfl⟩, plain, ?_, below⟩
    · rw [standing, Option.map_some]
    · rw [sectionFields?_ofJson, found, Option.map_some]

theorem mem_keywords_ofJson_iff {schema : Json} {path : FieldPath} :
    path ∈ keywords (.ofJson schema) ↔
      ∃ (properties : Table String Json) (name : FieldName) (property : Json),
        schema.objectAt? "properties" = some properties ∧
        properties.get? name.text = some property ∧
        ¬ (name.text.startsWith "$" || name.text.startsWith "@") = true ∧ path = .field name := by
  rw [keywords, SortedSet.mem_ofList, List.mem_filterMap, fields?_ofJson]
  constructor
  · intro listed
    obtain ⟨⟨written, shape⟩, member, found⟩ := listed
    cases listed : schema.objectAt? "properties" with
    | none => simp [listed] at member
    | some properties =>
        rw [listed, Option.map_some, Option.getD_some] at member
        obtain ⟨property, stored, rfl⟩ := mem_shapesOf_iff.mp member
        dsimp only at found
        split at found
        · cases found
        · rename_i plain
          obtain ⟨name, read, rfl⟩ := Option.map_eq_some_iff.mp found
          obtain rfl := FieldName.ofString?_eq_some_iff.mp read
          exact ⟨properties, name, property, rfl, stored, plain, rfl⟩
  · intro declared
    obtain ⟨properties, name, property, listed, stored, plain, rfl⟩ := declared
    refine ⟨(name.text, .ofJson property), ?_, ?_⟩
    · rw [listed]
      exact mem_shapesOf_iff.mpr ⟨property, stored, rfl⟩
    · have read : FieldName.ofString? name.text = some name :=
        FieldName.ofString?_eq_some_iff.mpr rfl
      dsimp only
      rw [if_neg plain, read, Option.map_some]

theorem exists_name_of_mem_keywords {schema : Json} {path : FieldPath}
    (member : path ∈ keywords (.ofJson schema)) : ∃ name, path = .field name := by
  obtain ⟨_, name, _, _, _, _, same⟩ := mem_keywords_ofJson_iff.mp member
  exact ⟨name, same⟩

end Concord.Schema
