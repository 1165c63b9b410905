namespace Concord

/-! Finite tables and sets whose entries stand in the order of a text key.

Everything this library reports is listed by the code points of a name: the members of a JSON
object, the rows of a presence matrix, the fields of an inventory.  A `Table` keeps its entries
strictly ascending by key, so a table has one representation and listing it needs no sorting.
-/

/-- Values that are listed by the code points of a text. -/
class Keyed (α : Type u) where
  key : α → String

export Keyed (key)

instance : Keyed String := ⟨id⟩

/-- A finite map whose entries stand in strictly ascending order of key. -/
structure Table (κ : Type u) [Keyed κ] (β : Type v) where
  entries : List (κ × β)
  ascending : entries.Pairwise fun earlier later => key earlier.1 < key later.1

namespace Table

variable {κ : Type u} [Keyed κ] {β : Type v} {γ : Type w}

def empty : Table κ β := ⟨[], .nil⟩

instance : EmptyCollection (Table κ β) := ⟨empty⟩

/-- Entries with `k` put in its place, its value made from the one that stood there. -/
def place (k : κ) (update : Option β → β) : List (κ × β) → List (κ × β)
  | [] => [(k, update none)]
  | entry :: rest =>
      if key k < key entry.1 then (k, update none) :: entry :: rest
      else if key k = key entry.1 then (entry.1, update (some entry.2)) :: rest
      else entry :: place k update rest

theorem key_of_mem_place {k : κ} {update : Option β → β} {entries : List (κ × β)}
    {entry : κ × β} (member : entry ∈ place k update entries) :
    key entry.1 = key k ∨ ∃ old ∈ entries, key entry.1 = key old.1 := by
  induction entries with
  | nil => simp_all [place]
  | cons head rest ih =>
      simp only [place] at member
      split at member
      · rcases List.mem_cons.mp member with rfl | member
        · exact .inl rfl
        · exact .inr ⟨entry, member, rfl⟩
      · split at member
        · rcases List.mem_cons.mp member with rfl | member
          · exact .inr ⟨head, by simp, rfl⟩
          · exact .inr ⟨entry, by simp [member], rfl⟩
        · rcases List.mem_cons.mp member with rfl | member
          · exact .inr ⟨entry, by simp, rfl⟩
          · rcases ih member with same | ⟨old, found, same⟩
            · exact .inl same
            · exact .inr ⟨old, by simp [found], same⟩

theorem ascending_place (k : κ) (update : Option β → β) {entries : List (κ × β)}
    (sorted : entries.Pairwise fun earlier later => key earlier.1 < key later.1) :
    (place k update entries).Pairwise fun earlier later => key earlier.1 < key later.1 := by
  induction entries with
  | nil => simp [place]
  | cons head rest ih =>
      obtain ⟨below, tail⟩ := List.pairwise_cons.mp sorted
      simp only [place]
      split
      · rename_i before
        refine List.pairwise_cons.mpr ⟨fun entry member => ?_, sorted⟩
        rcases List.mem_cons.mp member with rfl | member
        · exact before
        · exact String.lt_trans before (below entry member)
      · rename_i notBefore
        split
        · exact List.pairwise_cons.mpr ⟨below, tail⟩
        · rename_i different
          refine List.pairwise_cons.mpr ⟨fun entry member => ?_, ih tail⟩
          have after : key head.1 < key k :=
            Std.lt_of_le_of_ne (String.not_lt.mp notBefore) (Ne.symm different)
          rcases key_of_mem_place member with same | ⟨old, found, same⟩
          · exact same ▸ after
          · exact same ▸ below old found

def alter (table : Table κ β) (k : κ) (update : Option β → β) : Table κ β :=
  ⟨place k update table.entries, ascending_place k update table.ascending⟩

/-- A key that is present keeps its place and takes the new value. -/
def insert (table : Table κ β) (k : κ) (value : β) : Table κ β :=
  table.alter k fun _ => value

/-- Later entries win. -/
def insertAll (table : Table κ β) (entries : List (κ × β)) : Table κ β :=
  entries.foldl (fun table entry => table.insert entry.1 entry.2) table

def ofList (entries : List (κ × β)) : Table κ β := empty.insertAll entries

def get? (table : Table κ β) (k : κ) : Option β :=
  (table.entries.find? fun entry => key entry.1 = key k).map (·.2)

def contains (table : Table κ β) (k : κ) : Bool :=
  table.entries.any fun entry => key entry.1 = key k

def keys (table : Table κ β) : List κ := table.entries.map (·.1)

def values (table : Table κ β) : List β := table.entries.map (·.2)

def size (table : Table κ β) : Nat := table.entries.length

def isEmpty (table : Table κ β) : Bool := table.entries.isEmpty

def mapValues (table : Table κ β) (f : κ → β → γ) : Table κ γ :=
  ⟨table.entries.map fun entry => (entry.1, f entry.1 entry.2),
    List.pairwise_map.mpr table.ascending⟩

end Table

structure SortedSet (α : Type u) [Keyed α] where
  members : Table α Unit

namespace SortedSet

variable {α : Type u} [Keyed α]

def empty : SortedSet α := ⟨∅⟩

instance : EmptyCollection (SortedSet α) := ⟨empty⟩

def toList (set : SortedSet α) : List α := set.members.keys

def insert (set : SortedSet α) (a : α) : SortedSet α := ⟨set.members.insert a ()⟩

def contains (set : SortedSet α) (a : α) : Bool := set.members.contains a

def insertAll (set : SortedSet α) (items : List α) : SortedSet α := items.foldl insert set

def ofList (items : List α) : SortedSet α := empty.insertAll items

def size (set : SortedSet α) : Nat := set.members.size

def isEmpty (set : SortedSet α) : Bool := set.members.isEmpty

end SortedSet

end Concord
