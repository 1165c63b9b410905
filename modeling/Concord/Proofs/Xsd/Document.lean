import Concord.Proofs.Xml.Place
import Concord.Xsd.Document

namespace Concord.Xsd

/-! The summary of an XSD beside the tree that it is made from.

Each list of the summary shows the elements at some places of the tree, in document order.  The
declarations of a complex type are those at or below its place, so they stand together in the list
of all declarations, within those of a type around it and apart from those of any other type.
-/

variable {root : Xml.Element} {places : List Xml.Place}

/-- The places of the elements of a name of the XML Schema vocabulary. -/
def placesNamed (root : Xml.Element) (localName : String) : List Xml.Place :=
  root.placesWhere fun node => isNamed node.name localName

/-- What attributes tell under a name: the first one of the name that is in no namespace decides. -/
inductive Tells (name : String) : List Xml.Attribute → Option String → Prop where
  | nothing {attributes : List Xml.Attribute}
      (unused : ∀ entry ∈ attributes, entry.name ≠ ⟨none, name⟩) : Tells name attributes none
  | first {before after : List Xml.Attribute} {value : String}
      (earlier : ∀ entry ∈ before, entry.name ≠ ⟨none, name⟩) :
      Tells name (before ++ ⟨⟨none, name⟩, value⟩ :: after) (some value)

theorem tells_attribute? (node : Xml.Element) (name : String) :
    Tells name node.attributes (node.attribute? name) := by
  unfold Xml.Element.attribute?
  cases found : node.attributes.find? (·.name = ⟨none, name⟩) with
  | none => exact .nothing (by simpa using List.find?_eq_none.mp found)
  | some entry =>
      obtain ⟨same, before, after, whole, earlier⟩ := List.find?_eq_some_iff_append.mp found
      obtain ⟨written, value⟩ := entry
      obtain rfl : written = ⟨none, name⟩ := by simpa using same
      rw [whole]
      exact .first (by simpa using earlier)

/-- An entry gives the name and the type of the element at a place, as its attributes tell them. -/
def ShowsElement (root : Xml.Element) (place : Xml.Place) (entry : ElementDeclaration) : Prop :=
  ∃ node, root.at? place = some node ∧ Tells "name" node.attributes entry.name? ∧
    Tells "type" node.attributes entry.type?

/-- The entries for the elements at some places, one by one. -/
abbrev ShowsElements (root : Xml.Element) (places : List Xml.Place)
    (entries : List ElementDeclaration) : Prop :=
  List.Forall₂ (ShowsElement root) places entries

/-- An entry gives the name of the complex type at a place, and the element declarations at or below
it. -/
structure ShowsType (root : Xml.Element) (place : Xml.Place) (entry : ComplexType) : Prop where
  name : ∃ node, root.at? place = some node ∧ Tells "name" node.attributes entry.name?
  elements : ShowsElements root ((placesNamed root "element").filter (place <+: ·)) entry.elements

theorem showsElements_map {nodes : List Xml.Element} (stand : root.StandAt places nodes) :
    ShowsElements root places (nodes.map declaration) :=
  List.forall₂_map_right_iff.mpr (stand.imp fun _ node found =>
    ⟨node, found, tells_attribute? node "name", tells_attribute? node "type"⟩)

theorem showsElements_declarations {chosen : Xml.Place → Bool} {nodes : List Xml.Element}
    (stand : root.StandAt (root.places.filter chosen) nodes) :
    ShowsElements root ((placesNamed root "element").filter chosen) (declarations nodes) := by
  rw [placesNamed, Xml.Element.filter_placesWhere]
  exact showsElements_map (stand.filter _)

theorem showsType_complexType {place : Xml.Place} {node : Xml.Element}
    (stands : root.at? place = some node) : ShowsType root place (complexType node) where
  name := ⟨node, stands, tells_attribute? node "name"⟩
  elements := showsElements_declarations (Xml.Element.standAt_within stands)

theorem placesNamed_spec (root : Xml.Element) (localName : String) :
    (placesNamed root localName).Pairwise (· < ·) ∧
      ∀ place, place ∈ placesNamed root localName ↔
        ∃ node, root.at? place = some node ∧ node.name = ⟨some namespaceUri, localName⟩ := by
  refine ⟨Xml.Element.placesWhere_ascending root _, fun place => ?_⟩
  simp only [placesNamed, Xml.Element.mem_placesWhere_iff, isNamed, decide_eq_true_eq]

/-- The places of the complex types, of which the root is none. -/
def typePlaces (root : Xml.Element) : List Xml.Place :=
  (placesNamed root "complexType").filter fun place => place ≠ []

theorem complexTypes_answer (root : Xml.Element) :
    List.Forall₂ (fun place entry => ∃ node, root.at? place = some node ∧ complexType node = entry)
      (typePlaces root) (Document.ofRoot root).complexTypes := by
  rw [typePlaces, placesNamed, Xml.Element.filter_placesWhere]
  exact List.forall₂_map_right_iff.mpr
    ((root.standAt_descendants.filter _).imp fun _ node found => ⟨node, found, rfl⟩)

theorem exists_node_of_mem_zip {place : Xml.Place} {entry : ComplexType}
    (member : (place, entry) ∈ (typePlaces root).zip (Document.ofRoot root).complexTypes) :
    ∃ node, root.at? place = some node ∧ complexType node = entry :=
  List.forall₂_zip (complexTypes_answer root) member

theorem contiguous_elements {outer inner : Xml.Element} {place : Xml.Place}
    (stands : outer.at? place = some inner) :
    declarations inner.withDescendants <:+: declarations outer.withDescendants :=
  ((Xml.Element.contiguous_withDescendants stands).filter _).map declaration

theorem descendantsOf_eq_flatMap (children : List Xml.Element) :
    Xml.Element.descendantsOf children = children.flatMap Xml.Element.withDescendants := by
  induction children with
  | nil => rfl
  | cons child rest ih => rw [Xml.Element.descendantsOf, ih, List.flatMap_cons]

/-- An element of another vocabulary is passed over, but not what stands below it. -/
theorem filter_withDescendants_of_foreign {node : Xml.Element} (localName : String)
    (foreign : node.name.uri? ≠ some namespaceUri) :
    node.withDescendants.filter (isNamed ·.name localName) =
      node.children.flatMap fun child =>
        child.withDescendants.filter (isNamed ·.name localName) := by
  cases node with
  | node name attributes children =>
      have unnamed : ¬ isNamed name localName = true := by
        rw [isNamed, decide_eq_true_eq]
        rintro rfl
        exact foreign rfl
      rw [Xml.Element.withDescendants, List.filter_cons_of_neg (by exact unnamed),
        descendantsOf_eq_flatMap, List.filter_flatMap]
      rfl

/-- The lists of a summary show the tree in document order: all element declarations with the root
among them, those that are children of the root, and all complex types but the root.  An entry has the
name and the type that the attributes of its element tell.  The declarations of a type are those at or
below its place, which stand together, within those of a type around it and apart from those of all
others.  Elements of other vocabularies hide nothing below them. -/
theorem summary_flattens_tree (root : Xml.Element) :
    let uri := "http://www.w3.org/2001/XMLSchema"
    let document := Document.ofRoot root
    let elements := placesNamed root "element"
    let types := (typePlaces root).zip document.complexTypes
    let within := fun place : Xml.Place => elements.filter (place <+: ·)
    (∀ localName, (placesNamed root localName).Pairwise (· < ·) ∧
      ∀ place, place ∈ placesNamed root localName ↔
        ∃ node, root.at? place = some node ∧ node.name = ⟨some uri, localName⟩) ∧
    ShowsElements root elements document.elements ∧
    ShowsElements root (elements.filter fun place => place.length = 1) document.topLevelElements ∧
    List.Forall₂ (ShowsType root) (typePlaces root) document.complexTypes ∧
    (∀ type ∈ types, within type.1 <:+: elements ∧ type.2.elements <:+: document.elements) ∧
    (∀ outer ∈ types, ∀ inner ∈ types, outer.1 <+: inner.1 →
      within inner.1 <:+: within outer.1 ∧ inner.2.elements <:+: outer.2.elements) ∧
    (∀ place ∈ typePlaces root, ∀ other ∈ typePlaces root, ¬ place <+: other → ¬ other <+: place →
      (within place).Disjoint (within other)) ∧
    ∀ node : Xml.Element, node.name.uri? ≠ some uri → ∀ localName,
      node.withDescendants.filter (isNamed ·.name localName) =
        node.children.flatMap fun child =>
          child.withDescendants.filter (isNamed ·.name localName) := by
  intro uri document elements types within
  refine ⟨placesNamed_spec root, showsElements_map (root.places_answer.filter _),
    showsElements_declarations root.standAt_children, (complexTypes_answer root).imp ?_,
    fun type member => ?_, fun outer outerMember inner innerMember below => ?_,
    fun place _ other _ apart otherApart => Xml.Element.within_disjoint apart otherApart,
    fun node foreign localName => filter_withDescendants_of_foreign localName foreign⟩
  · intro place entry answer
    obtain ⟨node, stands, rfl⟩ := answer
    exact showsType_complexType stands
  · obtain ⟨node, stands, same⟩ := exists_node_of_mem_zip member
    have all : within [] = elements := List.filter_eq_self.mpr fun _ _ => by simp
    have block : within type.1 <:+: within [] :=
      Xml.Element.contiguous_within stands List.nil_prefix
    rw [all] at block
    exact ⟨block, same ▸ contiguous_elements stands⟩
  · obtain ⟨outerNode, outerStands, outerSame⟩ := exists_node_of_mem_zip outerMember
    obtain ⟨innerNode, innerStands, innerSame⟩ := exists_node_of_mem_zip innerMember
    refine ⟨Xml.Element.contiguous_within innerStands below, ?_⟩
    obtain ⟨rest, whole⟩ := below
    rw [← whole, Xml.Element.at?_append, outerStands, Option.bind_some] at innerStands
    rw [← outerSame, ← innerSame]
    exact contiguous_elements innerStands

end Concord.Xsd
