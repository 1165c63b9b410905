import Concord.Table
import Mathlib.Data.List.Sort

namespace Concord

/-! What a table holds, as a function of the key, and what a sorted set holds, as membership.

A table is strictly ascending by key, so it is determined by the value it holds for each key, and a
sorted set by its members.  Both need keys that tell apart the values they are keys of.
-/

/-- Keys that belong to one value only. -/
class LawfulKeyed (α : Type u) [Keyed α] : Prop where
  eq_of_key_eq : ∀ {a b : α}, key a = key b → a = b

instance : LawfulKeyed String := ⟨id⟩

theorem key_eq_iff [Keyed α] [LawfulKeyed α] {a b : α} : key a = key b ↔ a = b :=
  ⟨LawfulKeyed.eq_of_key_eq, congrArg key⟩

/-- Lists in ascending order of a text are equal if they have the same items. -/
theorem eq_of_ascending {f : α → String} {items other : List α}
    (sorted : items.Pairwise fun earlier later => f earlier < f later)
    (otherSorted : other.Pairwise fun earlier later => f earlier < f later)
    (same : ∀ a, a ∈ items ↔ a ∈ other) : items = other := by
  have irrefl : Std.Irrefl fun earlier later : α => f earlier < f later :=
    ⟨fun a => String.lt_irrefl (f a)⟩
  have antisymm : Std.Antisymm fun earlier later : α => f earlier < f later :=
    ⟨fun _ _ before after => absurd after (String.lt_asymm before)⟩
  exact sorted.eq_of_mem_iff otherSorted same

section Last

variable {κ : Type u} {β : Type v} {k : κ} {value : β} {entries : List (κ × β)}

/-- The value that stands last under a key. -/
inductive IsLast (k : κ) : List (κ × β) → β → Prop where
  | here {value : β} {rest : List (κ × β)} (only : k ∉ rest.map (·.1)) :
      IsLast k ((k, value) :: rest) value
  | later {entry : κ × β} {value : β} {rest : List (κ × β)} (last : IsLast k rest value) :
      IsLast k (entry :: rest) value

theorem isLast_cons_iff {head : κ × β} {rest : List (κ × β)} :
    IsLast k (head :: rest) value ↔
      IsLast k rest value ∨ k ∉ rest.map (·.1) ∧ head = (k, value) := by
  constructor
  · intro last
    cases last with
    | here only => exact .inr ⟨only, rfl⟩
    | later last => exact .inl last
  · intro parts
    rcases parts with last | ⟨only, rfl⟩
    · exact .later last
    · exact .here only

/-- Where no key stands twice, every value stands last under its key. -/
theorem isLast_iff_mem (distinct : (entries.map (·.1)).Nodup) :
    IsLast k entries value ↔ (k, value) ∈ entries := by
  induction entries with
  | nil => exact iff_of_false (fun last => nomatch last) List.not_mem_nil
  | cons head rest ih =>
      obtain ⟨single, distinct⟩ := List.nodup_cons.mp distinct
      rw [isLast_cons_iff, ih distinct, List.mem_cons, or_comm, eq_comm (a := head)]
      refine or_congr_left (and_iff_right_of_imp ?_)
      rintro rfl
      exact single

end Last

namespace Table

variable {κ : Type u} [Keyed κ] {β : Type v} {γ : Type w}

private theorem find?_eq_none_of_lt {k : κ} {entries : List (κ × β)}
    (below : ∀ entry ∈ entries, key k < key entry.1) :
    (entries.find? fun entry => key entry.1 = key k) = none := by
  apply List.find?_eq_none.mpr
  intro entry member same
  have same : key entry.1 = key k := by simpa using same
  exact String.lt_irrefl (key k) (same ▸ below entry member)

theorem find?_place (k other : κ) (update : Option β → β) {entries : List (κ × β)}
    (sorted : entries.Pairwise fun earlier later => key earlier.1 < key later.1) :
    (((place k update entries).find? fun entry => key entry.1 = key other).map (·.2)) =
      if key k = key other then
        some (update ((entries.find? fun entry => key entry.1 = key k).map (·.2)))
      else (entries.find? fun entry => key entry.1 = key other).map (·.2) := by
  induction entries with
  | nil =>
      by_cases same : key k = key other <;> simp [place, same]
  | cons head rest ih =>
      obtain ⟨below, tail⟩ := List.pairwise_cons.mp sorted
      have step := ih tail
      simp only [place]
      split
      · rename_i before
        have absent : ((head :: rest).find? fun entry => key entry.1 = key k) = none := by
          apply find?_eq_none_of_lt
          intro entry member
          rcases List.mem_cons.mp member with rfl | member
          · exact before
          · exact String.lt_trans before (below entry member)
        by_cases same : key k = key other
        · rw [if_pos same, absent, List.find?_cons_of_pos (by simpa using same)]
          rfl
        · rw [if_neg same, List.find?_cons_of_neg (by simpa using same)]
      · split
        · rename_i found
          by_cases same : key k = key other
          · have here : key head.1 = key other := found.symm.trans same
            rw [if_pos same, List.find?_cons_of_pos (by simpa using here),
              List.find?_cons_of_pos (by simpa using found.symm)]
            rfl
          · have different : key head.1 ≠ key other := fun equal => same (found.trans equal)
            rw [if_neg same, List.find?_cons_of_neg (by simpa using different),
              List.find?_cons_of_neg (by simpa using different)]
        · rename_i different
          by_cases here : key head.1 = key other
          · have apart : key k ≠ key other := fun equal => different (equal.trans here.symm)
            rw [if_neg apart, List.find?_cons_of_pos (by simpa using here),
              List.find?_cons_of_pos (by simpa using here)]
          · rw [List.find?_cons_of_neg (by simpa using here), step,
              List.find?_cons_of_neg (by simpa using Ne.symm different),
              List.find?_cons_of_neg (by simpa using here)]

@[simp] theorem get?_empty (k : κ) : (∅ : Table κ β).get? k = none := rfl

theorem get?_alter (table : Table κ β) (k other : κ) (update : Option β → β) :
    (table.alter k update).get? other =
      if key k = key other then some (update (table.get? k)) else table.get? other :=
  find?_place k other update table.ascending

theorem get?_insert (table : Table κ β) (k other : κ) (value : β) :
    (table.insert k value).get? other =
      if key k = key other then some value else table.get? other :=
  table.get?_alter k other fun _ => value

/-- What a table holds after some insertions was inserted or was there before. -/
theorem exists_of_get?_insertAll {table : Table κ β} {inserted : List (κ × β)} {k : κ} {value : β}
    (found : (table.insertAll inserted).get? k = some value) :
    (∃ entry ∈ inserted, key entry.1 = key k ∧ entry.2 = value) ∨ table.get? k = some value := by
  induction inserted generalizing table with
  | nil => exact .inr found
  | cons head rest ih =>
      change ((table.insert head.1 head.2).insertAll rest).get? k = some value at found
      rcases ih found with later | before
      · obtain ⟨entry, member, same⟩ := later
        exact .inl ⟨entry, List.mem_cons_of_mem _ member, same⟩
      · rw [get?_insert] at before
        split at before
        · rename_i same
          exact .inl ⟨head, List.mem_cons_self, same, Option.some.inj before⟩
        · exact .inr before

/-- No two entries have the same key. -/
theorem eq_of_key_eq_of_mem {table : Table κ β} {entry other : κ × β}
    (member : entry ∈ table.entries) (otherMember : other ∈ table.entries)
    (same : key entry.1 = key other.1) : entry = other := by
  have distinct : (table.entries.map fun entry => key entry.1).Nodup :=
    List.pairwise_map.mpr (table.ascending.imp String.ne_of_lt)
  exact List.inj_on_of_nodup_map distinct member otherMember same

theorem get?_eq_some_iff_exists {table : Table κ β} {k : κ} {value : β} :
    table.get? k = some value ↔ ∃ entry ∈ table.entries, key entry.1 = key k ∧ entry.2 = value := by
  constructor
  · intro found
    obtain ⟨entry, lookup, rfl⟩ := Option.map_eq_some_iff.mp found
    have same : key entry.1 = key k := by simpa using List.find?_some lookup
    exact ⟨entry, List.mem_of_find?_eq_some lookup, same, rfl⟩
  · intro stored
    obtain ⟨entry, member, same, rfl⟩ := stored
    cases lookup : table.entries.find? fun entry => key entry.1 = key k with
    | none =>
        have absent := List.find?_eq_none.mp lookup entry member
        simp [same] at absent
    | some stored =>
        have storedKey : key stored.1 = key k := by simpa using List.find?_some lookup
        have equal := eq_of_key_eq_of_mem (List.mem_of_find?_eq_some lookup) member
          (storedKey.trans same.symm)
        simp only [get?, lookup, equal, Option.map_some]

theorem contains_eq_true_iff {table : Table κ β} {k : κ} :
    table.contains k = true ↔ ∃ entry ∈ table.entries, key entry.1 = key k := by
  simp [contains, List.any_eq_true]

theorem contains_eq_isSome_get? (table : Table κ β) (k : κ) :
    table.contains k = (table.get? k).isSome := by
  apply Bool.eq_iff_iff.mpr
  rw [contains_eq_true_iff, Option.isSome_iff_exists]
  constructor
  · intro stored
    obtain ⟨entry, member, same⟩ := stored
    exact ⟨entry.2, get?_eq_some_iff_exists.mpr ⟨entry, member, same, rfl⟩⟩
  · intro held
    obtain ⟨value, found⟩ := held
    obtain ⟨entry, member, same, _⟩ := get?_eq_some_iff_exists.mp found
    exact ⟨entry, member, same⟩

theorem keys_ascending (table : Table κ β) :
    table.keys.Pairwise fun earlier later => key earlier < key later :=
  List.pairwise_map.mpr table.ascending

theorem nodup_keys (table : Table κ β) : table.keys.Nodup := by
  apply List.pairwise_map.mpr
  exact table.ascending.imp fun before same => String.ne_of_lt before (congrArg key same)

section Lawful

variable [LawfulKeyed κ]

theorem get?_eq_some_iff {table : Table κ β} {k : κ} {value : β} :
    table.get? k = some value ↔ (k, value) ∈ table.entries := by
  rw [get?_eq_some_iff_exists]
  constructor
  · intro stored
    obtain ⟨⟨stored, value⟩, member, same, rfl⟩ := stored
    obtain rfl := key_eq_iff.mp same
    exact member
  · intro member
    exact ⟨(k, value), member, rfl, rfl⟩

theorem contains_iff_mem_keys {table : Table κ β} {k : κ} :
    table.contains k = true ↔ k ∈ table.keys := by
  rw [contains_eq_true_iff]
  constructor
  · intro stored
    obtain ⟨entry, member, same⟩ := stored
    rw [← key_eq_iff.mp same]
    exact List.mem_map_of_mem member
  · intro member
    obtain ⟨entry, stored, rfl⟩ := List.mem_map.mp member
    exact ⟨entry, stored, rfl⟩

theorem mem_keys_iff_isSome_get? {table : Table κ β} {k : κ} :
    k ∈ table.keys ↔ (table.get? k).isSome = true := by
  rw [← contains_iff_mem_keys, contains_eq_isSome_get?]

theorem get?_mapValues (table : Table κ β) (f : κ → β → γ) (k : κ) :
    (table.mapValues f).get? k = (table.get? k).map (f k) := by
  apply Option.ext
  intro value
  rw [get?_eq_some_iff, Option.map_eq_some_iff]
  constructor
  · intro member
    obtain ⟨entry, stored, equal⟩ := List.mem_map.mp member
    obtain ⟨rfl, rfl⟩ := Prod.mk.inj equal
    exact ⟨entry.2, get?_eq_some_iff.mpr stored, rfl⟩
  · intro held
    obtain ⟨old, found, rfl⟩ := held
    exact List.mem_map.mpr ⟨(k, old), get?_eq_some_iff.mp found, rfl⟩

/-- After some insertions a table holds the last value inserted under a key, and under other keys what
it held before. -/
theorem get?_insertAll_eq_some_iff {table : Table κ β} {inserted : List (κ × β)} {k : κ}
    {value : β} :
    (table.insertAll inserted).get? k = some value ↔
      IsLast k inserted value ∨ k ∉ inserted.map (·.1) ∧ table.get? k = some value := by
  induction inserted generalizing table with
  | nil =>
      have none : ¬ IsLast k ([] : List (κ × β)) value := fun last => nomatch last
      simp [insertAll, none]
  | cons head rest ih =>
      have step : ((table.insertAll (head :: rest)).get? k = some value) ↔
          IsLast k rest value ∨
            k ∉ rest.map (·.1) ∧ (table.insert head.1 head.2).get? k = some value := ih
      rw [step, isLast_cons_iff, get?_insert, or_assoc]
      simp only [key_eq_iff, List.map_cons, List.mem_cons, not_or]
      by_cases same : head.1 = k
      · subst same
        simp [Prod.ext_iff]
      · have apart : head ≠ (k, value) := fun equal => same (congrArg Prod.fst equal)
        simp [key_eq_iff, same, Ne.symm same, apart]

/-- What is inserted from another table comes before what a table held. -/
theorem get?_insertAll_entries (table other : Table κ β) (k : κ) :
    (table.insertAll other.entries).get? k = (other.get? k).or (table.get? k) := by
  have absent : k ∉ other.entries.map (·.1) ↔ other.get? k = none := by
    rw [← Option.isNone_iff_eq_none, ← Option.isSome_eq_false_iff, ← Bool.not_eq_true,
      ← mem_keys_iff_isSome_get?]
    rfl
  apply Option.ext
  intro value
  rw [Option.or_eq_some_iff, get?_insertAll_eq_some_iff, isLast_iff_mem other.nodup_keys,
    ← get?_eq_some_iff, absent]

/-- Of tables that are inserted one after the other, the last that has a key decides its value. -/
theorem get?_foldl_insertAll (tables : List (Table κ β)) (table : Table κ β) (k : κ) :
    (tables.foldl (fun table other => table.insertAll other.entries) table).get? k =
      (tables.reverse.findSome? (·.get? k)).or (table.get? k) := by
  induction tables generalizing table with
  | nil => rfl
  | cons head rest ih =>
      rw [List.foldl_cons, ih, get?_insertAll_entries, List.reverse_cons, List.findSome?_append,
        List.findSome?_singleton, Option.or_assoc]

/-- A table is determined by the value it holds for each key. -/
theorem ext {table other : Table κ β} (same : ∀ k, table.get? k = other.get? k) :
    table = other := by
  have entries : table.entries = other.entries := by
    apply eq_of_ascending table.ascending other.ascending
    intro entry
    rw [← Prod.eta entry, ← get?_eq_some_iff, ← get?_eq_some_iff, same]
  cases table
  cases other
  congr

end Lawful

end Table

namespace SortedSet

variable {α : Type u} [Keyed α]

instance : Membership α (SortedSet α) := ⟨fun set a => a ∈ set.toList⟩

theorem mem_toList {set : SortedSet α} {a : α} : a ∈ set.toList ↔ a ∈ set := Iff.rfl

/-- The members are listed in the order of their keys, each once. -/
theorem toList_ascending (set : SortedSet α) :
    set.toList.Pairwise fun earlier later => key earlier < key later :=
  List.pairwise_map.mpr set.members.ascending

@[simp] theorem not_mem_empty (a : α) : ¬ a ∈ (∅ : SortedSet α) := List.not_mem_nil

variable [LawfulKeyed α]

theorem contains_iff_mem {set : SortedSet α} {a : α} : set.contains a = true ↔ a ∈ set :=
  Table.contains_iff_mem_keys

theorem contains_eq_false_iff {set : SortedSet α} {a : α} : set.contains a = false ↔ a ∉ set := by
  rw [← contains_iff_mem, Bool.not_eq_true]

theorem mem_insert {set : SortedSet α} {a b : α} : b ∈ set.insert a ↔ b = a ∨ b ∈ set := by
  rw [← contains_iff_mem, ← contains_iff_mem]
  simp only [contains, insert, Table.contains_eq_isSome_get?, Table.get?_insert]
  by_cases same : key a = key b
  · simp [key_eq_iff.mp same]
  · have different : b ≠ a := fun equal => same (congrArg key equal.symm)
    simp [same, different]

theorem mem_insertAll {set : SortedSet α} {items : List α} {a : α} :
    a ∈ set.insertAll items ↔ a ∈ items ∨ a ∈ set := by
  induction items generalizing set with
  | nil => simp [insertAll]
  | cons head rest ih =>
      have step : a ∈ (set.insert head).insertAll rest ↔ a ∈ rest ∨ a ∈ set.insert head := ih
      rw [mem_insert] at step
      rw [List.mem_cons, or_assoc, or_left_comm]
      exact step

theorem mem_ofList {items : List α} {a : α} : a ∈ ofList items ↔ a ∈ items := by
  rw [ofList, mem_insertAll]
  exact or_iff_left (not_mem_empty a)

/-- A sorted set is determined by its members. -/
theorem ext {set other : SortedSet α} (same : ∀ a, a ∈ set ↔ a ∈ other) : set = other := by
  have members : set.members = other.members := by
    apply Table.ext
    intro a
    have held : (set.members.get? a).isSome = (other.members.get? a).isSome := by
      apply Bool.eq_iff_iff.mpr
      rw [← Table.mem_keys_iff_isSome_get?, ← Table.mem_keys_iff_isSome_get?]
      exact same a
    cases left : set.members.get? a <;> cases right : other.members.get? a <;>
      simp_all
  cases set
  cases other
  congr

/-- The members that a smaller set has too are the smaller set. -/
theorem filter_contains_toList {set other : SortedSet α} (within : ∀ a ∈ set, a ∈ other) :
    other.toList.filter set.contains = set.toList := by
  apply eq_of_ascending (other.toList_ascending.filter _) set.toList_ascending
  intro a
  rw [List.mem_filter, contains_iff_mem]
  exact and_iff_right_of_imp (within a)

end SortedSet

end Concord
