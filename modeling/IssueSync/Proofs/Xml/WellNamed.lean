import IssueSync.Proofs.Xml.AcceptedTree

/-! # The names in a document

Every element, attribute and label of a document that is accepted has a name
made of name characters (`Document.parse?_wellNamed`), at every place of the
document (`Document.wellNamed_of_mem_places`).
-/

namespace IssueSync.Xml

/-! ### Names in trees -/

/-- All labels that a scope binds are names. -/
def Scope.WellNamed (scope : Scope) : Prop :=
  ∀ binding ∈ scope, ∀ label, binding.label = some label → IsName label.toList

/-- All attributes of a list have names as local names. -/
def AttributesNamed (attributes : List Attribute) : Prop :=
  ∀ item ∈ attributes, IsName item.name.localName.toList

/-- The elements, attributes and labels of a node, at any depth, have names. -/
inductive Node.WellNamed : Node → Prop where
  | element {name : ExpandedName} {declared : Scope} {attributes : List Attribute}
      {content : List Node} (named : IsName name.localName.toList)
      (declaredNamed : declared.WellNamed) (attributesNamed : AttributesNamed attributes)
      (inside : ∀ node ∈ content, node.WellNamed) :
      WellNamed (.element name declared attributes content)
  | text (content : String) : WellNamed (.text content)
  | comment (content : String) : WellNamed (.comment content)
  | instruction (target : String) (value : Option String) : WellNamed (.instruction target value)

theorem Scope.wellNamed_nil : Scope.WellNamed [] := by
  intro binding member
  cases member

/-- Declarations inside others are well named when both are. -/
theorem Scope.WellNamed.extend {outer own : Scope} (outerNamed : outer.WellNamed)
    (ownNamed : own.WellNamed) : (outer.extend own).WellNamed := by
  intro binding member
  rcases Scope.mem_extend member with inOwn | inOuter
  · exact ownNamed binding inOwn
  · exact outerNamed binding inOuter

/-- Sound declarations have names as labels. -/
theorem Scope.Sound.wellNamed {scope : Scope} (sound : scope.Sound) : scope.WellNamed :=
  fun binding member => (sound binding member).named

/-- What is accepted is well named. -/
theorem Node.Accepted.wellNamed {outer : Scope} {node : Node} (accepted : node.Accepted outer) :
    node.WellNamed := by
  induction accepted with
  | element sound _ hosts _ _ inside =>
      have itemsNamed : AttributesNamed _ := fun item member => (hosts.sound item member).named
      exact .element hosts.named sound.wellNamed itemsNamed inside
  | text _ => exact .text _
  | comment _ => exact .comment _
  | instruction _ _ => exact .instruction _ _

/-- All names of a document that is accepted are names. -/
theorem Document.parse?_wellNamed {text : String} {document : Document}
    (parsed : Document.parse? text = some document) : ∀ node ∈ document.nodes, node.WellNamed :=
  fun node member => ((Document.parse?_accepted parsed).nodes node member).wellNamed

/-! ### Places with names -/

/-- The node at a place and the labels in scope around it have names. -/
structure Place.WellNamed (place : Place) : Prop where
  outer : place.outer.WellNamed
  node : place.node.WellNamed

namespace Place.WellNamed

variable {place inner : Place} {localName group item : String}

theorem inside (named : place.WellNamed) (member : inner ∈ place.inside) : inner.WellNamed := by
  obtain ⟨node, listed, rfl⟩ := List.mem_map.mp member
  obtain ⟨outer, whole⟩ := place
  obtain ⟨outerNamed, wholeNamed⟩ := named
  cases wholeNamed with
  | element _ declaredNamed _ content => exact ⟨outerNamed.extend declaredNamed, content _ listed⟩
  | text => cases listed
  | comment => cases listed
  | instruction => cases listed

theorem children (named : place.WellNamed) (member : inner ∈ place.children localName) :
    inner.WellNamed :=
  named.inside (List.mem_filter.mp member).1

/-- The first child is well named. -/
theorem child? (named : place.WellNamed) (found : place.child? localName = some inner) :
    inner.WellNamed :=
  named.inside (List.mem_of_find?_eq_some found)

/-- Grandchildren are well named. -/
theorem grandchildren (named : place.WellNamed)
    (member : inner ∈ place.grandchildren group item) : inner.WellNamed := by
  obtain ⟨middle, grouped, inMiddle⟩ := List.mem_flatMap.mp member
  exact (named.children grouped).children inMiddle

end Place.WellNamed

mutual

/-- All places of a well-named node are. -/
theorem Place.wellNamed_of_mem_places {outer : Scope} {place : Place}
    (outerNamed : outer.WellNamed) :
    ∀ node : Node, node.WellNamed → place ∈ node.places outer → place.WellNamed
  | .element name declared attributes content, named, member => by
      rw [Node.places, List.mem_cons] at member
      rcases member with rfl | deeper
      · exact ⟨outerNamed, named⟩
      · cases named with
        | element _ declaredNamed _ inside =>
            have scopeNamed := outerNamed.extend declaredNamed
            exact wellNamed_of_mem_placesInside scopeNamed content inside deeper
  | .text content, named, member => by
      rw [Node.places.eq_def, List.mem_singleton] at member
      exact member ▸ ⟨outerNamed, named⟩
  | .comment content, named, member => by
      rw [Node.places.eq_def, List.mem_singleton] at member
      exact member ▸ ⟨outerNamed, named⟩
  | .instruction target value, named, member => by
      rw [Node.places.eq_def, List.mem_singleton] at member
      exact member ▸ ⟨outerNamed, named⟩

/-- All places of well-named nodes are. -/
theorem Place.wellNamed_of_mem_placesInside {outer : Scope} {place : Place}
    (outerNamed : outer.WellNamed) :
    ∀ nodes : List Node, (∀ node ∈ nodes, node.WellNamed) →
      place ∈ Node.placesInside outer nodes → place.WellNamed
  | [], _, member => by cases member
  | node :: rest, named, member => by
      obtain ⟨first, later⟩ := List.forall_mem_cons.mp named
      rw [Node.placesInside, List.mem_append] at member
      rcases member with inFirst | inLater
      · exact wellNamed_of_mem_places outerNamed node first inFirst
      · exact wellNamed_of_mem_placesInside outerNamed rest later inLater

end

/-- Every node of a document that is accepted stands at a place with names. -/
theorem Document.wellNamed_of_mem_places {text : String} {document : Document} {place : Place}
    (parsed : Document.parse? text = some document) (member : place ∈ document.places) :
    place.WellNamed :=
  Place.wellNamed_of_mem_placesInside Scope.wellNamed_nil document.nodes
    (Document.parse?_wellNamed parsed) member

end IssueSync.Xml
