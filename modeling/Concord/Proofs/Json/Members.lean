import Concord.Json.Basic
import Concord.Proofs.Table

namespace Concord.Json

/-! The members of a JSON object, looked up and edited.

The table that lists the members of an object agrees with looking them up one by one.  An edit of an
object leaves out a member or changes the value of one, and says nothing of the others.
-/

theorem get?_insertAll (table : Table String Json) (members : List (String × Json))
    (name : String) :
    (table.insertAll members).get? name = (lastValue? name members).or (table.get? name) := by
  induction members generalizing table with
  | nil => rfl
  | cons head rest ih =>
      have step : (table.insertAll (head :: rest)).get? name =
          (lastValue? name rest).or ((table.insert head.1 head.2).get? name) := ih _
      rw [step, Table.get?_insert, lastValue?]
      cases lastValue? name rest with
      | some later => rfl
      | none =>
          by_cases same : head.1 = name
          · simp [same]
          · have different : key head.1 ≠ key name := same
            simp [same, different]

theorem isSome_lastValue?_iff {name : String} {members : List (String × Json)} :
    (lastValue? name members).isSome = true ↔ name ∈ members.map (·.1) := by
  induction members with
  | nil => simp [lastValue?]
  | cons head rest ih =>
      rw [List.map_cons, List.mem_cons, ← ih, lastValue?]
      cases lastValue? name rest with
      | some later => simp
      | none => by_cases same : name = head.1 <;> simp [same, eq_comm]

theorem mem_of_lastValue? {name : String} {members : List (String × Json)} {value : Json}
    (found : lastValue? name members = some value) : (name, value) ∈ members := by
  induction members with
  | nil => simp [lastValue?] at found
  | cons head rest ih =>
      simp only [lastValue?] at found
      split at found
      · rename_i laterFound
        exact List.mem_cons_of_mem _ (ih (laterFound.trans found))
      · split at found
        · rename_i same
          cases found
          exact same ▸ List.mem_cons_self
        · cases found

/-- A name that is written once stands for the value written with it. -/
theorem lastValue?_of_mem {name : String} {members : List (String × Json)} {value : Json}
    (distinct : (members.map (·.1)).Nodup) (member : (name, value) ∈ members) :
    lastValue? name members = some value := by
  obtain ⟨found, stored⟩ :=
    Option.isSome_iff_exists.mp (isSome_lastValue?_iff.mpr (List.mem_map_of_mem member))
  have same := List.inj_on_of_nodup_map distinct (mem_of_lastValue? stored) member rfl
  rw [stored, (Prod.mk.inj same).2]

/-- Listing the members and looking one up agree. -/
theorem get?_of_members? {value : Json} {members : Table String Json}
    (listed : value.members? = some members) (name : String) :
    members.get? name = value.get? name := by
  cases value <;> simp only [members?, reduceCtorEq, Option.some.injEq] at listed
  subst listed
  rw [Table.ofList, get?_insertAll]
  exact Option.or_none

theorem get?_ofTable (table : Table String Json) (name : String) :
    (ofTable table).get? name = table.get? name := by
  apply Option.ext
  intro value
  rw [Table.get?_eq_some_iff]
  exact ⟨mem_of_lastValue?, lastValue?_of_mem table.nodup_keys⟩

theorem isObject_iff_exists {value : Json} :
    value.isObject = true ↔ ∃ members, value.members? = some members :=
  Option.isSome_iff_exists

theorem objectAt?_eq_some_iff {value : Json} {name : String} {members : Table String Json} :
    value.objectAt? name = some members ↔
      ∃ inner, value.get? name = some inner ∧ inner.members? = some members :=
  Option.bind_eq_some_iff

def erase (name : String) : Json → Json
  | .object members => .object (members.filter fun member => member.1 ≠ name)
  | other => other

def modify (name : String) (change : Json → Json) : Json → Json
  | .object members =>
      .object (members.map fun member =>
        if member.1 = name then (member.1, change member.2) else member)
  | other => other

@[simp] theorem isObject_erase (name : String) (value : Json) :
    (value.erase name).isObject = value.isObject := by
  cases value <;> rfl

@[simp] theorem isObject_modify (name : String) (change : Json → Json) (value : Json) :
    (value.modify name change).isObject = value.isObject := by
  cases value <;> rfl

theorem get?_erase (name other : String) (value : Json) :
    (value.erase name).get? other = if other = name then none else value.get? other := by
  cases value with
  | object members =>
      simp only [erase, get?]
      induction members with
      | nil => simp [lastValue?]
      | cons head rest ih =>
          by_cases dropped : head.1 = name
          · rw [List.filter_cons_of_neg (by simpa using dropped), ih, lastValue?]
            by_cases same : other = name
            · simp [same]
            · have different : head.1 ≠ other := fun equal => same (equal.symm.trans dropped)
              cases lastValue? other rest <;> simp [same, different]
          · rw [List.filter_cons_of_pos (by simpa using dropped), lastValue?, ih, lastValue?]
            by_cases same : other = name
            · have different : head.1 ≠ other := fun equal => dropped (equal.trans same)
              simp [← same, different]
            · simp [same]
  | _ => simp [erase, get?]

theorem get?_modify (name other : String) (change : Json → Json) (value : Json) :
    (value.modify name change).get? other =
      if other = name then (value.get? other).map change else value.get? other := by
  cases value with
  | object members =>
      simp only [modify, get?]
      induction members with
      | nil => simp [lastValue?]
      | cons head rest ih =>
          rw [List.map_cons, lastValue?, ih, lastValue?]
          by_cases same : other = name
          · subst name
            cases found : lastValue? other rest with
            | some later => simp
            | none => by_cases here : head.1 = other <;> simp [here]
          · by_cases here : head.1 = other
            · have different : head.1 ≠ name := fun equal => same (here.symm.trans equal)
              simp [same, different]
            · by_cases changed : head.1 = name <;> simp [same, Ne.symm same, here, changed]
  | _ => simp [modify, get?]

theorem get?_modify_of_get? {name : String} {change : Json → Json} {value inner : Json}
    (found : value.get? name = some inner) :
    (value.modify name change).get? name = some (change inner) := by
  rw [get?_modify, if_pos rfl, found, Option.map_some]

theorem get?_modify_of_ne {name other : String} {change : Json → Json} {value : Json}
    (different : other ≠ name) : (value.modify name change).get? other = value.get? other := by
  rw [get?_modify, if_neg different]

end Concord.Json
