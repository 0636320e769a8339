import IssueSync.Proofs.Xml.Frame
import IssueSync.Rule.Reading

/-! # Where configurations are found

Once an element `configurations` is around, the places of configurations are
the elements `configuration` at any depth (`configurationPlacesInside_true`).
Along a path of nested elements, the places come in document order: those that
begin before the innermost content, those inside it, and those after it
(`configurationPlacesInside_aroundPath`). Only the elements of the path itself
depend on that content.
-/

namespace IssueSync

open Xml (Frame Node Place Scope)

mutual

/-- Below a list of configurations all elements named so count. -/
theorem configurationPlaces_true (outer : Scope) :
    ∀ node, configurationPlaces true outer node =
      (Node.places outer node).filter (·.isNamed "configuration")
  | .element name declared attributes content => by
      have inside := configurationPlacesInside_true (outer.extend declared) content
      rw [configurationPlaces, Node.places, Bool.true_or, inside, Bool.true_and]
      by_cases named : name.localName = "configuration"
      · rw [if_pos (beq_iff_eq.mpr named), List.filter_cons_of_pos]
        simp [Place.isNamed, Node.isNamed, Node.localName?, named]
      · rw [if_neg (fun same => named (beq_iff_eq.mp same)), List.filter_cons_of_neg]
        simp [Place.isNamed, Node.isNamed, Node.localName?, named]
  | .text _ => rfl
  | .comment _ => rfl
  | .instruction _ _ => rfl

/-- Inside an element `configurations`, every element `configuration` is the
place of one. -/
theorem configurationPlacesInside_true (outer : Scope) :
    ∀ nodes, configurationPlacesInside true outer nodes =
      (Node.placesInside outer nodes).filter (·.isNamed "configuration")
  | [] => rfl
  | node :: rest => by
      rw [configurationPlacesInside, Node.placesInside, List.filter_append,
        configurationPlaces_true outer node, configurationPlacesInside_true outer rest]

end

/-- Each node has its own places of configurations. -/
theorem configurationPlacesInside_eq_flatMap (enclosed : Bool) (outer : Scope)
    (nodes : List Node) :
    configurationPlacesInside enclosed outer nodes =
      nodes.flatMap (configurationPlaces enclosed outer) := by
  induction nodes with
  | nil => rfl
  | cons node rest ih => rw [configurationPlacesInside, ih, List.flatMap_cons]

/-- An element counts itself when it is enclosed, and before those inside it. -/
theorem configurationPlaces_element (enclosed : Bool) (outer : Scope) (name : Xml.ExpandedName)
    (declared : Scope) (attributes : List Xml.Attribute) (content : List Node) :
    configurationPlaces enclosed outer (.element name declared attributes content) =
      (if enclosed && name.localName == "configuration" then
          [⟨outer, .element name declared attributes content⟩] else []) ++
        configurationPlacesInside (enclosed || name.localName == "configurations")
          (outer.extend declared) content := by
  rw [configurationPlaces]
  split
  · rfl
  · rfl

theorem configurationPlacesInside_append (enclosed : Bool) (outer : Scope)
    (first second : List Node) :
    configurationPlacesInside enclosed outer (first ++ second) =
      configurationPlacesInside enclosed outer first ++
        configurationPlacesInside enclosed outer second := by
  simp only [configurationPlacesInside_eq_flatMap, List.flatMap_append]

/-- Configurations stand in elements only. -/
theorem configurationPlacesInside_filter_isElement (enclosed : Bool) (outer : Scope)
    (nodes : List Node) :
    configurationPlacesInside enclosed outer (nodes.filter Node.isElement) =
      configurationPlacesInside enclosed outer nodes := by
  induction nodes with
  | nil => rfl
  | cons node rest ih =>
      cases node with
      | element name declared attributes content =>
          rw [List.filter_cons_of_pos rfl, configurationPlacesInside, configurationPlacesInside, ih]
      | text _ | comment _ | instruction _ _ =>
          rw [List.filter_cons_of_neg Bool.false_ne_true, ih]
          rfl

theorem configurationPlaces_of_ne {name : Xml.ExpandedName}
    (other : name.localName ≠ "configuration") (enclosed : Bool) (outer declared : Scope)
    (attributes : List Xml.Attribute) (content : List Node) :
    configurationPlaces enclosed outer (.element name declared attributes content) =
      configurationPlacesInside (enclosed || name.localName == "configurations")
        (outer.extend declared) content := by
  rw [configurationPlaces, if_neg]
  exact fun both => other (beq_iff_eq.mp (Bool.and_eq_true_iff.mp both).2)

mutual

theorem configurationPlaces_eq_nil {other : Scope} (enclosed : Bool) (outer : Scope) :
    ∀ node, (∀ place ∈ Node.places other node, place.isNamed "configuration" = false) →
      configurationPlaces enclosed outer node = []
  | .element name declared attributes content, plain => by
      have itself := plain _ List.mem_cons_self
      have other : name.localName ≠ "configuration" := by
        simpa [Place.isNamed, Node.isNamed, Node.localName?] using itself
      rw [configurationPlaces_of_ne other]
      exact configurationPlacesInside_eq_nil _ _ content fun place inside =>
        plain place (List.mem_cons_of_mem _ inside)
  | .text _, _ => rfl
  | .comment _, _ => rfl
  | .instruction _ _, _ => rfl

/-- No configurations are found where no element has their name. -/
theorem configurationPlacesInside_eq_nil {other : Scope} (enclosed : Bool) (outer : Scope) :
    ∀ nodes, (∀ place ∈ Node.placesInside other nodes, place.isNamed "configuration" = false) →
      configurationPlacesInside enclosed outer nodes = []
  | [], _ => rfl
  | node :: rest, plain => by
      have first := configurationPlaces_eq_nil enclosed outer node fun place found =>
        plain place (List.mem_append_left _ found)
      have later := configurationPlacesInside_eq_nil enclosed outer rest fun place found =>
        plain place (List.mem_append_right _ found)
      rw [configurationPlacesInside, first, later]
      rfl

end

/-! ### Along a path -/

/-- The nodes around `content` along a path of nested elements, the outermost
first. -/
def aroundPath : List Frame → List Node → List Node
  | [], content => content
  | frame :: inner, content => frame.around (aroundPath inner content)

/-- The bindings in scope at the end of a path. -/
def pathScope (outer : Scope) : List Frame → Scope
  | [] => outer
  | frame :: inner => pathScope (frame.scope outer) inner

/-- Whether an element `configurations` is around the content of a frame. -/
def enclosedIn (enclosed : Bool) (frame : Frame) : Bool :=
  enclosed || frame.name.localName == "configurations"

/-- Whether an element `configurations` is around the end of a path. -/
def enclosedAlong (enclosed : Bool) : List Frame → Bool
  | [] => enclosed
  | frame :: inner => enclosedAlong (enclosedIn enclosed frame) inner

/-- The place of a frame when it is that of a configuration. -/
def ownPlace (enclosed : Bool) (outer : Scope) (frame : Frame) (content : List Node) :
    List Place :=
  if enclosed && frame.name.localName == "configuration" then [frame.place outer content] else []

/-- The places of the configurations along a path that are around its end. -/
def placesAround (enclosed : Bool) (outer : Scope) : List Frame → List Node → List Place
  | [], _ => []
  | frame :: inner, content =>
      ownPlace enclosed outer frame (aroundPath inner content) ++
        placesAround (enclosedIn enclosed frame) (frame.scope outer) inner content

/-- The places of the configurations that begin before the end of a path. -/
def placesBefore (enclosed : Bool) (outer : Scope) : List Frame → List Node → List Place
  | [], _ => []
  | frame :: inner, content =>
      configurationPlacesInside enclosed outer frame.before ++
        (ownPlace enclosed outer frame (aroundPath inner content) ++
          placesBefore (enclosedIn enclosed frame) (frame.scope outer) inner content)

/-- The places of the configurations after the end of a path. -/
def placesAfter (enclosed : Bool) (outer : Scope) : List Frame → List Place
  | [] => []
  | frame :: inner =>
      placesAfter (enclosedIn enclosed frame) (frame.scope outer) inner ++
        configurationPlacesInside enclosed outer frame.after

/-- Places before a frame, of the frame itself, inside it and behind it. -/
theorem configurationPlacesInside_around (enclosed : Bool) (outer : Scope) (frame : Frame)
    (content : List Node) :
    configurationPlacesInside enclosed outer (frame.around content) =
      configurationPlacesInside enclosed outer frame.before ++
        (ownPlace enclosed outer frame content ++
          configurationPlacesInside (enclosedIn enclosed frame) (frame.scope outer) content ++
            configurationPlacesInside enclosed outer frame.after) := by
  rw [Frame.around, configurationPlacesInside_append, configurationPlacesInside, Frame.element,
    configurationPlaces, ownPlace]
  split
  · rfl
  · rfl

/-- The places come in document order. -/
theorem configurationPlacesInside_aroundPath (enclosed : Bool) (outer : Scope)
    (path : List Frame) (content : List Node) :
    configurationPlacesInside enclosed outer (aroundPath path content) =
      placesBefore enclosed outer path content ++
        (configurationPlacesInside (enclosedAlong enclosed path) (pathScope outer path) content ++
          placesAfter enclosed outer path) := by
  induction path generalizing enclosed outer with
  | nil => simp [aroundPath, placesBefore, placesAfter, enclosedAlong, pathScope]
  | cons frame inner ih =>
      rw [aroundPath, configurationPlacesInside_around, ih]
      simp only [placesBefore, placesAfter, enclosedAlong, pathScope, List.append_assoc]

theorem length_ownPlace (enclosed : Bool) (outer : Scope) (frame : Frame)
    (first second : List Node) :
    (ownPlace enclosed outer frame first).length =
      (ownPlace enclosed outer frame second).length := by
  unfold ownPlace
  split
  · rfl
  · rfl

/-- How many configurations begin before the end of a path does not depend on
the content there. -/
theorem length_placesBefore (enclosed : Bool) (outer : Scope) (path : List Frame)
    (first second : List Node) :
    (placesBefore enclosed outer path first).length =
      (placesBefore enclosed outer path second).length := by
  induction path generalizing enclosed outer with
  | nil => rfl
  | cons frame inner ih =>
      simp only [placesBefore, List.length_append]
      rw [length_ownPlace _ _ _ _ (aroundPath inner second), ih]

/-- What begins before the end of a path reads the same for two contents when
the configurations around that end do. -/
theorem map_placesBefore_eq_iff {α : Type} (read : Place → α) (enclosed : Bool) (outer : Scope)
    (path : List Frame) (first second : List Node) :
    (placesBefore enclosed outer path first).map read =
        (placesBefore enclosed outer path second).map read ↔
      (placesAround enclosed outer path first).map read =
        (placesAround enclosed outer path second).map read := by
  induction path generalizing enclosed outer with
  | nil => exact Iff.rfl
  | cons frame inner ih =>
      have own : ((ownPlace enclosed outer frame (aroundPath inner first)).map read).length =
          ((ownPlace enclosed outer frame (aroundPath inner second)).map read).length := by
        rw [List.length_map, List.length_map]
        exact length_ownPlace _ _ _ _ _
      simp only [placesBefore, placesAround, List.map_append, List.append_cancel_left_eq]
      rw [List.append_eq_append_iff_of_size_eq_left own,
        List.append_eq_append_iff_of_size_eq_left own, ih]

/-- Without an element `configuration` on the path no configuration is around
its end. -/
theorem placesAround_eq_nil {path : List Frame}
    (none : ∀ frame ∈ path, frame.name.localName ≠ "configuration") (enclosed : Bool)
    (outer : Scope) (content : List Node) : placesAround enclosed outer path content = [] := by
  induction path generalizing enclosed outer with
  | nil => rfl
  | cons frame inner ih =>
      have own : ownPlace enclosed outer frame (aroundPath inner content) = [] := by
        have other := none frame List.mem_cons_self
        exact if_neg fun both => other (beq_iff_eq.mp (Bool.and_eq_true_iff.mp both).2)
      rw [placesAround, own, ih fun frame member => none frame (List.mem_cons_of_mem _ member)]
      rfl

/-- What is enclosed stays so further inside. -/
theorem enclosedAlong_true (path : List Frame) : enclosedAlong true path = true := by
  induction path with
  | nil => rfl
  | cons frame inner ih => exact ih

/-! ### The path to a configuration -/

/-- A configuration is found at the end of a path that has an element
`configurations` on it. -/
def ReachedBy (enclosed : Bool) (outer : Scope) (nodes : List Node) (place : Place) : Prop :=
  ∃ (path : List Frame) (frame : Frame) (content : List Node),
    nodes = aroundPath path (frame.around content) ∧ enclosedAlong enclosed path = true ∧
      frame.name.localName = "configuration" ∧ place = frame.place (pathScope outer path) content

/-- The path goes on through an element. -/
theorem ReachedBy.through {enclosed : Bool} {outer : Scope} (frame : Frame)
    {content : List Node} {place : Place}
    (reached : ReachedBy (enclosedIn enclosed frame) (frame.scope outer) content place) :
    ReachedBy enclosed outer (frame.around content) place := by
  obtain ⟨path, last, inside, rfl, found, named, rfl⟩ := reached
  exact ⟨frame :: path, last, inside, rfl, found, named, rfl⟩

/-- Nodes before an element can be added to a path. -/
theorem ReachedBy.cons {enclosed : Bool} {outer : Scope} (node : Node) {nodes : List Node}
    {place : Place} (reached : ReachedBy enclosed outer nodes place) :
    ReachedBy enclosed outer (node :: nodes) place := by
  obtain ⟨path, last, inside, rfl, found, named, rfl⟩ := reached
  cases path with
  | nil => exact ⟨[], { last with before := node :: last.before }, inside, rfl, found, named, rfl⟩
  | cons frame path =>
      exact ⟨{ frame with before := node :: frame.before } :: path, last, inside, rfl, found,
        named, rfl⟩

mutual

/-- Every place of a configuration is reached on a path of frames. -/
theorem reachedBy_of_mem_configurationPlaces {enclosed : Bool} {outer : Scope} {place : Place} :
    ∀ (node : Node) (rest : List Node), place ∈ configurationPlaces enclosed outer node →
      ReachedBy enclosed outer (node :: rest) place
  | .element name declared attributes content, rest, member => by
      let frame : Frame := ⟨[], name, declared, attributes, rest⟩
      have inside : place ∈ configurationPlacesInside (enclosedIn enclosed frame)
          (frame.scope outer) content → ReachedBy enclosed outer (frame.around content) place :=
        fun deeper => (reachedBy_of_mem_configurationPlacesInside content deeper).through frame
      rw [configurationPlaces] at member
      split at member
      · next both =>
          obtain ⟨found, named⟩ := Bool.and_eq_true_iff.mp both
          rcases List.mem_cons.mp member with rfl | deeper
          · exact ⟨[], frame, content, rfl, found, beq_iff_eq.mp named, rfl⟩
          · exact inside deeper
      · exact inside member
  | .text _, _, member => by cases member
  | .comment _, _, member => by cases member
  | .instruction _ _, _, member => by cases member

/-- Every place of a configuration is reached by a path. -/
theorem reachedBy_of_mem_configurationPlacesInside {enclosed : Bool} {outer : Scope}
    {place : Place} :
    ∀ nodes : List Node, place ∈ configurationPlacesInside enclosed outer nodes →
      ReachedBy enclosed outer nodes place
  | [], member => by cases member
  | node :: rest, member => by
      rw [configurationPlacesInside, List.mem_append] at member
      rcases member with first | later
      · exact reachedBy_of_mem_configurationPlaces node rest first
      · exact (reachedBy_of_mem_configurationPlacesInside rest later).cons node

end

end IssueSync
