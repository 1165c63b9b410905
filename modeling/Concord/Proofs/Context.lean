import Concord.Context
import Concord.Proofs.Json.Members

namespace Concord.Context

/-! The inventory of a context, in terms of its inline objects.

A context may be one object or several entries, of which those that are objects count.  Merged into
one object, the inline objects have the same field keys as one by one; the values, and the order and
the number of the objects, do not matter for the inventory.
-/

/-- A context that stands in the document itself: one object, or several entries. -/
inductive IsInline : Json → Prop where
  | single (members : List (String × Json)) : IsInline (.object members)
  | several (entries : List Json) : IsInline (.array entries)

theorem mem_names_iff {document : Json} {name : String} :
    name ∈ names document ↔
      isFieldKey name = true ∧ ∃ inline ∈ inlineObjects document, name ∈ inline.keys := by
  rw [names, SortedSet.mem_ofList, List.mem_flatMap]
  simp only [List.mem_filter]
  constructor
  · intro listing
    obtain ⟨inline, member, listed, isField⟩ := listing
    exact ⟨isField, inline, member, listed⟩
  · intro listing
    obtain ⟨isField, inline, member, listed⟩ := listing
    exact ⟨inline, member, listed, isField⟩

theorem mem_names_iff_of_object {document context : Json}
    (found : document.get? "@context" = some context) (object : context.isObject = true)
    {name : String} :
    name ∈ names document ↔ isFieldKey name = true ∧ (context.get? name).isSome = true := by
  obtain ⟨terms, listed⟩ := Json.isObject_iff_exists.mp object
  have inline : inlineObjects document = [terms] := by
    cases context with
    | object members => simp [inlineObjects, found, listed]
    | _ => cases object
  rw [mem_names_iff, inline]
  simp only [List.mem_singleton, exists_eq_left, Table.mem_keys_iff_isSome_get?,
    Json.get?_of_members? listed]

/-- Some entry is an object that has the name. -/
def SomeHas (entries : List Json) (name : String) : Prop :=
  ∃ entry ∈ entries, (entry.get? name).isSome = true

theorem mem_names_iff_of_array {document : Json} {entries : List Json}
    (found : document.get? "@context" = some (.array entries)) {name : String} :
    name ∈ names document ↔ isFieldKey name = true ∧ SomeHas entries name := by
  have inline : inlineObjects document = entries.filterMap Json.members? := by
    simp [inlineObjects, found]
  rw [mem_names_iff, inline]
  refine and_congr_right fun _ => ?_
  constructor
  · intro listed
    obtain ⟨terms, member, has⟩ := listed
    obtain ⟨entry, stands, written⟩ := List.mem_filterMap.mp member
    rw [Table.mem_keys_iff_isSome_get?, Json.get?_of_members? written] at has
    exact ⟨entry, stands, has⟩
  · intro listed
    obtain ⟨entry, stands, has⟩ := listed
    cases entry with
    | object members =>
        have written : (Json.object members).members? = some (.ofList members) := rfl
        refine ⟨.ofList members, List.mem_filterMap.mpr ⟨_, stands, written⟩, ?_⟩
        rw [Table.mem_keys_iff_isSome_get?, Json.get?_of_members? written]
        exact has
    | _ => cases has

/-- The entries of a context, rearranged without a term lost or added. -/
inductive Rearranged : List Json → List Json → Prop where
  | reorder {entries other : List Json} (order : entries.Perm other) : Rearranged entries other
  | duplicate (entry : Json) (rest : List Json) : Rearranged (entry :: rest) (entry :: entry :: rest)
  | split {members part others : List (String × Json)} (rest : List Json)
      (parts : members.Perm (part ++ others)) :
      Rearranged (.object members :: rest) (.object part :: .object others :: rest)
  | ignore {entry : Json} (rest : List Json) (plain : entry.isObject = false) :
      Rearranged (entry :: rest) rest
  | symm {entries other : List Json} (back : Rearranged other entries) : Rearranged entries other
  | trans {entries middle other : List Json} (first : Rearranged entries middle)
      (second : Rearranged middle other) : Rearranged entries other

theorem isSome_get?_object_iff {members : List (String × Json)} {name : String} :
    ((Json.object members).get? name).isSome = true ↔ name ∈ members.map (·.1) :=
  Json.isSome_lastValue?_iff

theorem Rearranged.someHas_iff {entries other : List Json} (rearranged : Rearranged entries other)
    (name : String) : SomeHas entries name ↔ SomeHas other name := by
  unfold SomeHas
  induction rearranged with
  | reorder order => simp only [order.mem_iff]
  | duplicate entry rest => simp
  | split rest parts =>
      have named := (parts.map Prod.fst).mem_iff (a := name)
      simp only [List.exists_mem_cons_iff, isSome_get?_object_iff, named, List.map_append,
        List.mem_append, or_assoc]
  | ignore rest plain =>
      rename_i entry
      have absent : (entry.get? name).isSome = false := by
        cases entry <;> first | rfl | cases plain
      simp [absent]
  | symm _ ih => exact ih.symm
  | trans _ _ first second => exact first.trans second

theorem names_eq_of_rearranged {document other : Json} {entries rearranged : List Json}
    (found : document.get? "@context" = some (.array entries))
    (otherFound : other.get? "@context" = some (.array rearranged))
    (same : Rearranged entries rearranged) : names other = names document := by
  apply SortedSet.ext
  intro name
  rw [mem_names_iff_of_array found, mem_names_iff_of_array otherFound, same.someHas_iff]

/-- Of the inline objects that have a key, the last defines it. -/
theorem get?_merged (document : Json) (name : String) :
    (merged document).get? name = (inlineObjects document).reverse.findSome? (·.get? name) := by
  rw [merged, Table.get?_foldl_insertAll, Table.get?_empty, Option.or_none]

theorem mem_keys_merged_iff {document : Json} {name : String} :
    name ∈ (merged document).keys ↔ ∃ inline ∈ inlineObjects document, name ∈ inline.keys := by
  simp only [Table.mem_keys_iff_isSome_get?, get?_merged, List.findSome?_isSome_iff,
    List.mem_reverse]

/-- The inventory lists the field keys of the merged object. -/
theorem toList_names (document : Json) :
    (names document).toList = (merged document).keys.filter isFieldKey := by
  apply eq_of_ascending (f := key) (names document).toList_ascending
    ((merged document).keys_ascending.filter _)
  intro name
  rw [SortedSet.mem_toList, mem_names_iff, List.mem_filter, mem_keys_merged_iff, and_comm]

theorem names_eq_of_merged {document other : Json}
    (found : other.get? "@context" = some (.ofTable (merged document))) :
    names other = names document := by
  apply SortedSet.ext
  intro name
  rw [mem_names_iff_of_object found rfl, Json.get?_ofTable, ← Table.mem_keys_iff_isSome_get?,
    mem_keys_merged_iff, mem_names_iff]

end Concord.Context
