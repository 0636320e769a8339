import IssueSync.Xml.Node

/-! # Elements with a hole

A frame is an element without its content, together with the nodes beside it.
Nested frames lead from the top of a document to the content of one element.
What is looked up by name in an element depends on the content of a frame in it
only when the name is that of the frame (`Frame.children_around_of_ne`,
`Frame.grandchildren_around`).
-/

namespace IssueSync.Xml

/-- An element without its content, and the nodes beside it. -/
structure Frame where
  before : List Node
  name : ExpandedName
  declared : Scope
  attributes : List Attribute
  after : List Node

/-- The elements with this local name in a list of nodes. -/
def namedPlaces (scope : Scope) (localName : String) (nodes : List Node) : List Place :=
  (nodes.map (Place.mk scope)).filter (·.isNamed localName)

theorem namedPlaces_append (scope : Scope) (localName : String) (first second : List Node) :
    namedPlaces scope localName (first ++ second) =
      namedPlaces scope localName first ++ namedPlaces scope localName second := by
  rw [namedPlaces, List.map_append, List.filter_append]
  rfl

namespace Frame

/-- The element of the frame with a content. -/
def element (frame : Frame) (content : List Node) : Node :=
  .element frame.name frame.declared frame.attributes content

/-- What stands beside the element of the frame. -/
def beside (frame : Frame) : List Node :=
  frame.before ++ frame.after

/-- The nodes beside the element with the element at its place. -/
def around (frame : Frame) (content : List Node) : List Node :=
  frame.before ++ frame.element content :: frame.after

theorem isEmpty_around (frame : Frame) (content : List Node) :
    (frame.around content).isEmpty = false :=
  List.isEmpty_eq_false_iff.mpr (List.append_ne_nil_of_right_ne_nil _ (List.cons_ne_nil _ _))

/-- The element as a place. -/
def place (frame : Frame) (outer : Scope) (content : List Node) : Place :=
  ⟨outer, frame.element content⟩

/-- The declarations in force inside the frame. -/
def scope (frame : Frame) (outer : Scope) : Scope :=
  outer.extend frame.declared

variable {frame inner group item : Frame} {outer : Scope} {content : List Node}
  {localName groupName itemName : String}

/-- The place of a frame has the name of the frame. -/
theorem isNamed_place : (frame.place outer content).isNamed localName =
    decide (frame.name.localName = localName) := by
  simp [place, element, Place.isNamed, Node.isNamed, Node.localName?]

theorem children_place : (frame.place outer content).children localName =
    namedPlaces (frame.scope outer) localName content := rfl

/-- Around a frame of the name its own place stands between the others. -/
theorem namedPlaces_around_of_eq (same : inner.name.localName = localName) :
    namedPlaces outer localName (inner.around content) =
      namedPlaces outer localName inner.before ++
        inner.place outer content :: namedPlaces outer localName inner.after := by
  have named : (inner.place outer content).isNamed localName = true := by
    rw [isNamed_place, decide_eq_true same]
  rw [around, namedPlaces_append, namedPlaces, namedPlaces, List.map_cons]
  exact congrArg _ (List.filter_cons_of_pos named)

theorem namedPlaces_around_of_ne (different : inner.name.localName ≠ localName) :
    namedPlaces outer localName (inner.around content) =
      namedPlaces outer localName inner.beside := by
  have other : ¬ (inner.place outer content).isNamed localName = true := by
    rw [isNamed_place, decide_eq_false different]
    exact Bool.false_ne_true
  rw [around, beside, namedPlaces_append, namedPlaces_append, namedPlaces, namedPlaces,
    List.map_cons]
  exact congrArg _ (List.filter_cons_of_neg other)

theorem children_around_of_ne (different : inner.name.localName ≠ localName) :
    (frame.place outer (inner.around content)).children localName =
      (frame.place outer inner.beside).children localName :=
  namedPlaces_around_of_ne different

/-- The first child is the head of the children. -/
theorem child?_eq_head? (place : Place) (localName : String) :
    place.child? localName = (place.children localName).head? :=
  (List.head?_filter ..).symm

theorem child?_around_of_ne (different : inner.name.localName ≠ localName) :
    (frame.place outer (inner.around content)).child? localName =
      (frame.place outer inner.beside).child? localName := by
  rw [child?_eq_head?, child?_eq_head?, children_around_of_ne different]

/-- The element is the first of its name when no node before it has the name. -/
theorem child?_around_of_first (same : inner.name.localName = localName)
    (first : ∀ node ∈ inner.before, node.isNamed localName = false) :
    (frame.place outer (inner.around content)).child? localName =
      some (inner.place (frame.scope outer) content) := by
  have none : namedPlaces (frame.scope outer) localName inner.before = [] := by
    rw [namedPlaces, List.filter_map, List.map_eq_nil_iff, List.filter_eq_nil_iff]
    intro node member
    exact Bool.not_eq_true _ ▸ first node member
  rw [child?_eq_head?, children_place, namedPlaces_around_of_eq same, none]
  rfl

theorem grandchildren_around_of_ne (groupName itemName : String)
    (different : inner.name.localName ≠ groupName) :
    (frame.place outer (inner.around content)).grandchildren groupName itemName =
      (frame.place outer inner.beside).grandchildren groupName itemName := by
  rw [Place.grandchildren, children_around_of_ne different]
  rfl

/-- The items before `item` in its group, with those of earlier groups. -/
def itemsBefore (group item : Frame) (outer : Scope) (groupName itemName : String) : List Place :=
  (namedPlaces outer groupName group.before).flatMap (·.children itemName) ++
    namedPlaces (group.scope outer) itemName item.before

/-- The items after `item` in its group, with those of later groups. -/
def itemsAfter (group item : Frame) (outer : Scope) (groupName itemName : String) : List Place :=
  namedPlaces (group.scope outer) itemName item.after ++
    (namedPlaces outer groupName group.after).flatMap (·.children itemName)

/-- The grandchildren around a group: those before it, in it and behind it. -/
theorem grandchildren_around_group (grouped : group.name.localName = groupName) :
    (frame.place outer (group.around content)).grandchildren groupName itemName =
      (namedPlaces (frame.scope outer) groupName group.before).flatMap (·.children itemName) ++
        (namedPlaces (group.scope (frame.scope outer)) itemName content ++
          (namedPlaces (frame.scope outer) groupName group.after).flatMap
            (·.children itemName)) := by
  rw [Place.grandchildren, children_place, namedPlaces_around_of_eq grouped, List.flatMap_append,
    List.flatMap_cons, children_place]

/-- An item stands once among the items of its name. -/
theorem grandchildren_around (grouped : group.name.localName = groupName)
    (named : item.name.localName = itemName) :
    (frame.place outer (group.around (item.around content))).grandchildren groupName itemName =
      itemsBefore group item (frame.scope outer) groupName itemName ++
        item.place (group.scope (frame.scope outer)) content ::
          itemsAfter group item (frame.scope outer) groupName itemName := by
  rw [grandchildren_around_group grouped, namedPlaces_around_of_eq named, itemsBefore, itemsAfter]
  simp only [List.append_assoc, List.cons_append]

theorem grandchildren_around_item_of_ne (groupName itemName : String)
    (different : item.name.localName ≠ itemName) :
    (frame.place outer (group.around (item.around content))).grandchildren groupName itemName =
      (frame.place outer (group.around item.beside)).grandchildren groupName itemName := by
  by_cases grouped : group.name.localName = groupName
  · rw [grandchildren_around_group grouped, grandchildren_around_group grouped,
      namedPlaces_around_of_ne different]
  · rw [grandchildren_around_of_ne _ _ grouped, grandchildren_around_of_ne _ _ grouped]

/-! ### Frames of elements that are looked up -/

/-- A child is the place of a frame. -/
theorem exists_of_mem_children {place child : Place} (member : child ∈ place.children localName) :
    ∃ (frame : Frame) (content : List Node), place.node.content = frame.around content ∧
      frame.name.localName = localName ∧ child = frame.place place.scope content := by
  obtain ⟨inside, named⟩ := List.mem_filter.mp member
  obtain ⟨node, listed, rfl⟩ := List.mem_map.mp inside
  obtain ⟨before, after, split⟩ := List.append_of_mem listed
  cases node with
  | element name declared attributes content =>
      refine ⟨⟨before, name, declared, attributes, after⟩, content, split, ?_, rfl⟩
      simpa [Place.isNamed, Node.isNamed, Node.localName?] using named
  | text _ => cases named
  | comment _ => cases named
  | instruction _ _ => cases named

/-- The element that is looked up is the first of its name. -/
theorem exists_of_child? {place child : Place} (found : place.child? localName = some child) :
    ∃ (frame : Frame) (content : List Node), place.node.content = frame.around content ∧
      frame.name.localName = localName ∧ child = frame.place place.scope content ∧
      ∀ node ∈ frame.before, node.isNamed localName = false := by
  obtain ⟨named, before, after, split, others⟩ := List.find?_eq_some_iff_append.mp found
  obtain ⟨first, rest, whole, rfl, tail⟩ := List.map_eq_append_iff.mp split
  obtain ⟨node, last, rfl, rfl, rfl⟩ := List.map_eq_cons_iff.mp tail
  cases node with
  | element name declared attributes content =>
      refine ⟨⟨first, name, declared, attributes, last⟩, content, whole, ?_, rfl, ?_⟩
      · simpa [Place.isNamed, Node.isNamed, Node.localName?] using named
      · intro node member
        simpa [Place.isNamed] using others _ (List.mem_map_of_mem member)
  | text _ => cases named
  | comment _ => cases named
  | instruction _ _ => cases named

end Frame

end IssueSync.Xml
