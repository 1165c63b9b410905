import Concord.Number.Shortest
import Concord.Table

namespace Concord

/-! JSON values.

An object keeps its members as they were written.  A name that is written twice stands for its
last value, and the members are listed in the order of their names; `members?` and `get?` are the
views that say so, and everything else looks at objects through them.
-/

/-- Whole numbers of 64 bits are kept exactly, every other number as the nearest binary value. -/
inductive JsonNumber where
  | integer (value : Int)
  | real (value : Real64)
deriving DecidableEq, Repr

inductive Json where
  | null
  | bool (value : Bool)
  | number (value : JsonNumber)
  | string (value : String)
  | array (items : List Json)
  | object (members : List (String × Json))
deriving Inhabited

namespace JsonNumber

/-- The value as a fraction with positive denominator. -/
def fraction : JsonNumber → Int × Nat
  | .integer value => (value, 1)
  | .real value =>
      (if value.negative then -(value.numerator : Int) else value.numerator, value.denominator)

def compare (x y : JsonNumber) : Ordering :=
  Ord.compare (x.fraction.1 * y.fraction.2) (y.fraction.1 * x.fraction.2)

def isIntegral : JsonNumber → Bool
  | .integer _ => true
  | .real value => value.isIntegral

/-- The nearest binary value. -/
def toReal : JsonNumber → Real64
  | .integer value => (Real64.ofInt value).getD .zero
  | .real value => value

end JsonNumber

namespace Json

/-- The last value written for a name. -/
def lastValue? (name : String) : List (String × Json) → Option Json
  | [] => none
  | member :: rest =>
      match lastValue? name rest with
      | some value => some value
      | none => if member.1 = name then some member.2 else none

/-- The member of this name, if the value is an object that has one. -/
def get? (value : Json) (name : String) : Option Json :=
  match value with
  | .object members => lastValue? name members
  | _ => none

/-- The members of an object, each name once. -/
def members? : Json → Option (Table String Json)
  | .object members => some (Table.ofList members)
  | _ => none

/-- The members of the object that stands under a name. -/
def objectAt? (value : Json) (name : String) : Option (Table String Json) :=
  (value.get? name).bind members?

def items? : Json → Option (List Json)
  | .array items => some items
  | _ => none

def string? : Json → Option String
  | .string value => some value
  | _ => none

def number? : Json → Option JsonNumber
  | .number value => some value
  | _ => none

def isObject (value : Json) : Bool := value.members?.isSome

def ofNat (n : Nat) : Json := .number (.integer n)

def ofTable (table : Table String Json) : Json := .object table.entries

def strings (texts : List String) : Json := .array (texts.map .string)

theorem sizeOf_lastValue? {name : String} {members : List (String × Json)} {value : Json}
    (found : lastValue? name members = some value) : sizeOf value < sizeOf members := by
  induction members with
  | nil => simp [lastValue?] at found
  | cons member rest ih =>
      obtain ⟨written, candidate⟩ := member
      simp only [lastValue?] at found
      split at found
      · rename_i later laterFound
        cases found
        have smaller := ih laterFound
        simp only [List.cons.sizeOf_spec]
        omega
      · split at found
        · cases found
          simp only [List.cons.sizeOf_spec, Prod.mk.sizeOf_spec]
          omega
        · cases found

theorem sizeOf_get? {value : Json} {name : String} {member : Json}
    (found : value.get? name = some member) : sizeOf member < sizeOf value := by
  cases value <;> simp only [get?, reduceCtorEq] at found
  have smaller := sizeOf_lastValue? found
  simp only [object.sizeOf_spec]
  omega

theorem mem_of_mem_place {name : String} {value : Json} {entries : List (String × Json)}
    {entry : String × Json}
    (member : entry ∈ Table.place name (fun _ => value) entries) :
    entry.2 = value ∨ entry ∈ entries := by
  induction entries with
  | nil => simp_all [Table.place]
  | cons head rest ih =>
      simp only [Table.place] at member
      split at member
      · rcases List.mem_cons.mp member with rfl | member
        · exact .inl rfl
        · exact .inr member
      · split at member
        · rcases List.mem_cons.mp member with rfl | member
          · exact .inl rfl
          · exact .inr (List.mem_cons_of_mem _ member)
        · rcases List.mem_cons.mp member with rfl | member
          · exact .inr (List.mem_cons_self ..)
          · rcases ih member with same | found
            · exact .inl same
            · exact .inr (List.mem_cons_of_mem _ found)

theorem value_of_mem_insertAll (table : Table String Json) {written : List (String × Json)}
    {entry : String × Json} (member : entry ∈ (table.insertAll written).entries) :
    (∃ source ∈ written, entry.2 = source.2) ∨ entry ∈ table.entries := by
  induction written generalizing table with
  | nil => exact .inr member
  | cons head rest ih =>
      rcases ih (table.insert head.1 head.2) member with ⟨source, found, same⟩ | found
      · exact .inl ⟨source, List.mem_cons_of_mem _ found, same⟩
      · rcases mem_of_mem_place found with same | old
        · exact .inl ⟨head, List.mem_cons_self .., same⟩
        · exact .inr old

/-- A listed member is a part of the object it is listed for. -/
theorem sizeOf_of_mem_members {value : Json} {members : Table String Json}
    (listed : value.members? = some members) {entry : String × Json}
    (member : entry ∈ members.entries) : sizeOf entry.2 < sizeOf value := by
  cases value <;> simp only [members?, reduceCtorEq, Option.some.injEq] at listed
  subst listed
  rename_i written
  rcases value_of_mem_insertAll _ member with ⟨source, found, same⟩ | old
  · have smaller := List.sizeOf_lt_of_mem found
    rw [same]
    have part : sizeOf source.2 < sizeOf source := by
      obtain ⟨name, value⟩ := source
      simp only [Prod.mk.sizeOf_spec]
      omega
    simp only [object.sizeOf_spec]
    omega
  · exact absurd old (List.not_mem_nil)

theorem sizeOf_of_mem_objectAt {value : Json} {name : String} {members : Table String Json}
    (listed : value.objectAt? name = some members) {entry : String × Json}
    (member : entry ∈ members.entries) : sizeOf entry.2 < sizeOf value := by
  obtain ⟨inner, found, innerListed⟩ := Option.bind_eq_some_iff.mp listed
  exact Nat.lt_trans (sizeOf_of_mem_members innerListed member) (sizeOf_get? found)

end Json

end Concord
