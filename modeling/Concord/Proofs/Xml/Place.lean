import Concord.Proofs.Traversal
import Concord.Xml.Tree
import Mathlib.Data.List.Sort

namespace Concord.Xml

/-! Places in a tree of elements, and the order of a document.

A place says at every level which child leads on.  In the order of lists a place comes before those
below it, and those below one child before those below a later one, which is document order.  The
places at or below a place stand together in it.
-/

abbrev Place := List Nat

namespace Element

/-- The element at a place. -/
def at? : Element → Place → Option Element
  | element, [] => some element
  | element, step :: rest => element.children[step]?.bind (·.at? rest)

mutual

/-- The places of an element and of all below it. -/
def places : Element → List Place
  | .node _ _ children => [] :: placesOf 0 children

/-- The places of children and of all below them, of which the first has this number. -/
def placesOf (first : Nat) : List Element → List Place
  | [] => []
  | child :: rest => child.places.map (first :: ·) ++ placesOf (first + 1) rest

end

theorem at?_append (element : Element) (above below : Place) :
    element.at? (above ++ below) = (element.at? above).bind (·.at? below) := by
  induction above generalizing element with
  | nil => rfl
  | cons step rest ih =>
      rw [List.cons_append, at?, at?, Option.bind_assoc]
      exact Option.bind_congr fun child _ => ih child

theorem placesOf_append (first : Nat) (children others : List Element) :
    placesOf first (children ++ others) =
      placesOf first children ++ placesOf (first + children.length) others := by
  induction children generalizing first with
  | nil => rfl
  | cons child rest ih =>
      rw [List.cons_append, placesOf, placesOf, ih, List.append_assoc, List.length_cons,
        Nat.add_right_comm, Nat.add_assoc]

/-- The elements that stand at some places of a tree, one by one. -/
abbrev StandAt (root : Element) (places : List Place) (nodes : List Element) : Prop :=
  List.Forall₂ (fun place node => root.at? place = some node) places nodes

mutual

theorem places_answer (element : Element) :
    element.StandAt element.places element.withDescendants := by
  cases element with
  | node name attributes children =>
      rw [places, withDescendants]
      refine .cons rfl ((placesOf_answer 0 children).imp fun place node stands => ?_)
      obtain ⟨step, rest, rfl, found⟩ := stands
      rwa [Nat.zero_add]

theorem placesOf_answer (first : Nat) (children : List Element) :
    List.Forall₂
      (fun place node => ∃ step rest, place = (first + step) :: rest ∧
        children[step]?.bind (·.at? rest) = some node)
      (placesOf first children) (descendantsOf children) := by
  cases children with
  | nil => exact .nil
  | cons child rest =>
      rw [placesOf, descendantsOf]
      refine List.rel_append ?_ ?_
      · rw [List.forall₂_map_left_iff]
        exact (places_answer child).imp fun place node found => ⟨0, place, rfl, found⟩
      · refine (placesOf_answer (first + 1) rest).imp fun place node stands => ?_
        obtain ⟨step, below, rfl, found⟩ := stands
        exact ⟨step + 1, below, by rw [Nat.add_assoc, Nat.add_comm 1], found⟩

end

theorem exists_step_of_mem_placesOf {first : Nat} {children : List Element} {place : Place}
    (member : place ∈ placesOf first children) : ∃ step rest, place = (first + step) :: rest := by
  obtain ⟨_, _, step, rest, same, _⟩ :=
    Traversal.exists_of_forall₂ (placesOf_answer first children).flip member
  exact ⟨step, rest, same⟩

mutual

theorem places_ascending (element : Element) : element.places.Pairwise (· < ·) := by
  cases element with
  | node name attributes children =>
      rw [places, List.pairwise_cons]
      refine ⟨fun place member => ?_, placesOf_ascending 0 children⟩
      obtain ⟨step, rest, rfl⟩ := exists_step_of_mem_placesOf member
      exact List.nil_lt_cons _ _

theorem placesOf_ascending (first : Nat) (children : List Element) :
    (placesOf first children).Pairwise (· < ·) := by
  cases children with
  | nil => exact .nil
  | cons child rest =>
      rw [placesOf, List.pairwise_append]
      refine ⟨?_, placesOf_ascending (first + 1) rest, fun place member other otherMember => ?_⟩
      · rw [List.pairwise_map]
        exact (places_ascending child).imp fun before => List.cons_lt_cons_self.mpr before
      · obtain ⟨below, _, rfl⟩ := List.mem_map.mp member
        obtain ⟨step, further, rfl⟩ := exists_step_of_mem_placesOf otherMember
        exact List.cons_lt_cons_iff.mpr (.inl (by omega))

end

/-- The places at or below a place stand together. -/
theorem contiguous_places {element node : Element} {place : Place}
    (stands : element.at? place = some node) :
    node.places.map (place ++ ·) <:+: element.places := by
  induction place generalizing element with
  | nil =>
      obtain rfl := Option.some.inj stands
      simp
  | cons step rest ih =>
      obtain ⟨child, chosen, below⟩ := Option.bind_eq_some_iff.mp stands
      cases element with
      | node name attributes children =>
          obtain ⟨front, later, rfl, rfl⟩ :
              ∃ front later, children = front ++ child :: later ∧ front.length = step := by
            change children[step]? = some child at chosen
            obtain ⟨bound, found⟩ := List.getElem?_eq_some_iff.mp chosen
            refine ⟨children.take step, children.drop (step + 1), ?_, ?_⟩
            · rw [← found, List.getElem_cons_drop, List.take_append_drop]
            · exact List.length_take_of_le (Nat.le_of_lt bound)
          have block : child.places.map (front.length :: ·) <:+:
              places (.node name attributes (front ++ child :: later)) := by
            rw [places, placesOf_append, placesOf, Nat.zero_add]
            exact ⟨[] :: placesOf 0 front, placesOf (front.length + 1) later, by simp⟩
          have inner := (ih below).map (front.length :: ·)
          rw [List.map_map] at inner
          exact inner.trans block

theorem mem_places_iff {element : Element} {place : Place} :
    place ∈ element.places ↔ ∃ node, element.at? place = some node := by
  constructor
  · intro member
    obtain ⟨node, _, stands⟩ := Traversal.exists_of_forall₂ element.places_answer.flip member
    exact ⟨node, stands⟩
  · intro stands
    obtain ⟨node, stands⟩ := stands
    have itself : [] ∈ node.places := by
      cases node
      exact List.mem_cons_self
    have member := (contiguous_places stands).subset (List.mem_map_of_mem itself)
    rwa [List.append_nil] at member

/-- The places of a tree that are at or below a place are those of the element there. -/
theorem filter_places_eq_map {element node : Element} {place : Place}
    (stands : element.at? place = some node) :
    (element.places.filter fun other => place <+: other) = node.places.map (place ++ ·) := by
  have blockAscending := element.places_ascending.sublist (contiguous_places stands).sublist
  apply (element.places_ascending.filter _).eq_of_mem_iff blockAscending
  intro other
  rw [List.mem_filter, decide_eq_true_eq, mem_places_iff, List.mem_map]
  constructor
  · intro within
    obtain ⟨⟨found, there⟩, below, rfl⟩ := within
    rw [at?_append, stands, Option.bind_some] at there
    exact ⟨below, mem_places_iff.mpr ⟨found, there⟩, rfl⟩
  · intro within
    obtain ⟨below, member, rfl⟩ := within
    obtain ⟨found, there⟩ := mem_places_iff.mp member
    exact ⟨⟨found, by rwa [at?_append, stands, Option.bind_some]⟩, List.prefix_append _ _⟩

/-- The places of the elements that pass a test, in document order. -/
def placesWhere (root : Element) (keep : Element → Bool) : List Place :=
  root.places.filter fun place => (root.at? place).any keep

theorem StandAt.filter {root : Element} {places : List Place} {nodes : List Element}
    (stand : root.StandAt places nodes) (keep : Element → Bool) :
    root.StandAt (places.filter fun place => (root.at? place).any keep) (nodes.filter keep) := by
  refine List.rel_filter (fun place node found => ?_) stand
  change (root.at? place).any keep = true ↔ keep node = true
  rw [found, Option.any_some]

theorem placesWhere_ascending (root : Element) (keep : Element → Bool) :
    (root.placesWhere keep).Pairwise (· < ·) :=
  root.places_ascending.filter _

theorem mem_placesWhere_iff {root : Element} {keep : Element → Bool} {place : Place} :
    place ∈ root.placesWhere keep ↔ ∃ node, root.at? place = some node ∧ keep node = true := by
  rw [placesWhere, List.mem_filter, mem_places_iff, Option.any_eq_true]
  constructor
  · intro member
    exact member.2
  · intro stands
    obtain ⟨node, found, kept⟩ := stands
    exact ⟨⟨node, found⟩, node, found, kept⟩

/-- Two selections from the places of a tree can be made in either order. -/
theorem filter_placesWhere (root : Element) (keep : Element → Bool) (chosen : Place → Bool) :
    (root.placesWhere keep).filter chosen =
      (root.places.filter chosen).filter fun place => (root.at? place).any keep :=
  List.filter_comm ..

theorem placesOf_children (first : Nat) (children : List Element) :
    List.Forall₂ (fun place node => ∃ step, place = [first + step] ∧ children[step]? = some node)
      ((placesOf first children).filter fun place => place.length = 1) children := by
  induction children generalizing first with
  | nil => exact .nil
  | cons child rest ih =>
      have alone : (child.places.map (first :: ·)).filter (fun place => place.length = 1) =
          [[first]] := by
        cases child with
        | node name attributes children =>
            rw [places, List.map_cons, List.filter_cons_of_pos (by simp), List.cons.injEq,
              List.filter_eq_nil_iff]
            refine ⟨rfl, fun place member => ?_⟩
            obtain ⟨below, deeper, rfl⟩ := List.mem_map.mp member
            obtain ⟨step, further, rfl⟩ := exists_step_of_mem_placesOf deeper
            simp
      rw [placesOf, List.filter_append, alone]
      refine .cons ⟨0, rfl, rfl⟩ ((ih (first + 1)).imp fun place node stands => ?_)
      obtain ⟨step, rfl, found⟩ := stands
      exact ⟨step + 1, by rw [Nat.add_assoc, Nat.add_comm 1], found⟩

theorem standAt_children (root : Element) :
    root.StandAt (root.places.filter fun place => place.length = 1) root.children := by
  cases root with
  | node name attributes children =>
      rw [places, List.filter_cons_of_neg (by simp)]
      refine (placesOf_children 0 children).imp fun place node stands => ?_
      obtain ⟨step, rfl, found⟩ := stands
      rw [Nat.zero_add, at?]
      exact Option.bind_eq_some_iff.mpr ⟨node, found, rfl⟩

theorem standAt_descendants (root : Element) :
    root.StandAt (root.places.filter fun place => place ≠ []) root.descendants := by
  have all := root.places_answer
  cases root with
  | node name attributes children =>
      rw [places, withDescendants] at all
      have below : (placesOf 0 children).filter (fun place => place ≠ []) =
          placesOf 0 children := by
        refine List.filter_eq_self.mpr fun place member => ?_
        obtain ⟨step, rest, rfl⟩ := exists_step_of_mem_placesOf member
        simp
      rw [places, List.filter_cons_of_neg (by simp), below]
      cases all with
      | cons _ later => exact later

theorem standAt_within {root node : Element} {place : Place}
    (stands : root.at? place = some node) :
    root.StandAt (root.places.filter fun other => place <+: other) node.withDescendants := by
  rw [filter_places_eq_map stands]
  refine List.forall₂_map_left_iff.mpr (node.places_answer.imp fun below found there => ?_)
  rwa [at?_append, stands, Option.bind_some]

theorem StandAt.eq_filterMap {root : Element} {places : List Place} {nodes : List Element}
    (stand : root.StandAt places nodes) : nodes = places.filterMap root.at? := by
  induction stand with
  | nil => rfl
  | cons found _ ih => rw [List.filterMap_cons_some found, ← ih]

/-- The elements at or below a place stand together in the document. -/
theorem contiguous_withDescendants {root node : Element} {place : Place}
    (stands : root.at? place = some node) : node.withDescendants <:+: root.withDescendants := by
  have block : root.places.filter (fun other => place <+: other) <:+: root.places := by
    rw [filter_places_eq_map stands]
    exact contiguous_places stands
  rw [(standAt_within stands).eq_filterMap, root.places_answer.eq_filterMap]
  exact block.filterMap _

/-- The places of a kind at or below a place stand together, also among those of a place above
it. -/
theorem contiguous_within {root node : Element} {place other : Place} {keep : Element → Bool}
    (stands : root.at? other = some node) (below : place <+: other) :
    (root.placesWhere keep).filter (other <+: ·) <:+:
      (root.placesWhere keep).filter (place <+: ·) := by
  obtain ⟨rest, rfl⟩ := below
  rw [at?_append] at stands
  obtain ⟨outer, above, inner⟩ := Option.bind_eq_some_iff.mp stands
  have whole : root.at? (place ++ rest) = some node := by
    rw [at?_append, above, Option.bind_some, inner]
  have block := (contiguous_places inner).map (place ++ ·)
  rw [List.map_map] at block
  have blocks : root.places.filter (fun other => place ++ rest <+: other) <:+:
      root.places.filter (fun other => place <+: other) := by
    rw [filter_places_eq_map whole, filter_places_eq_map above]
    simpa only [Function.comp_def, List.append_assoc] using block
  rw [filter_placesWhere, filter_placesWhere]
  exact blocks.filter _

/-- Nothing is at or below two places of which none is below the other. -/
theorem within_disjoint {places : List Place} {place other : Place} (apart : ¬ place <+: other)
    (otherApart : ¬ other <+: place) :
    (places.filter (place <+: ·)).Disjoint (places.filter (other <+: ·)) := by
  intro shared member otherMember
  rw [List.mem_filter, decide_eq_true_eq] at member otherMember
  rcases List.prefix_or_prefix_of_prefix member.2 otherMember.2 with below | above
  · exact apart below
  · exact otherApart above

end Element

end Concord.Xml
