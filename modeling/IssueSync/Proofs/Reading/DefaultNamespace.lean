import IssueSync.Proofs.Reading.Parts
import IssueSync.Proofs.Xml.DefaultDeclaration

/-! # Reading in a default namespace

Elements are looked up by their local names, so in a document that is put into a
namespace they are found at the same places (`Way.select_within_namespace`,
`configurationPlaces_within`). At those places the document has the same parts
(`Reading.same_within`): the attributes and texts are untouched, and the markup of a
template is inside the top element, so that the declaration is not written in it.
-/

namespace IssueSync

open Xml (Attribute ExpandedName Node Place Scope)

namespace Xml

/-! ### Places -/

namespace Place

/-- The place in the document with the declaration, when it is inside the top
element. -/
def within (uri : String) (place : Place) : Place :=
  ⟨.default uri, place.node.within uri []⟩

/-- A place at which nothing is declared and no element has a namespace. -/
structure Plain (place : Place) : Prop where
  outer : place.outer = []
  node : place.node.Plain

variable {place : Place}

/-- Names are looked up without their namespaces. -/
theorem isNamed_within (uri : String) (place : Place) (localName : String) :
    (place.within uri).isNamed localName = place.isNamed localName := by
  obtain ⟨outer, node⟩ := place
  cases node with
  | element | text | comment | instruction => rfl

/-- A default namespace changes no attributes. -/
theorem attributes_within (uri : String) (place : Place) :
    (place.within uri).node.attributes = place.node.attributes := by
  obtain ⟨outer, node⟩ := place
  cases node with
  | element | text | comment | instruction => rfl

/-- The nodes inside an element are in the namespace as well. -/
theorem content_within (uri : String) (place : Place) :
    (place.within uri).node.content = place.node.content.map (Node.within uri []) := by
  obtain ⟨outer, node⟩ := place
  cases node with
  | element name declared attributes content => exact Node.withinAll_eq_map uri content
  | text | comment | instruction => rfl

namespace Plain

theorem declared (plain : place.Plain) : place.node.declared = [] := by
  obtain ⟨outer, node⟩ := place
  cases plain.node with
  | element | text | comment | instruction => rfl

theorem scope (plain : place.Plain) : place.scope = [] := by
  rw [Place.scope, plain.outer, plain.declared]
  rfl

/-- In a default namespace nothing but its declaration is in force. -/
theorem scope_within (plain : place.Plain) : (place.within uri).scope = .default uri := by
  obtain ⟨outer, node⟩ := place
  cases plain.node with
  | element | text | comment | instruction => rfl

theorem inside (plain : place.Plain) : ∀ child ∈ place.inside, child.Plain := by
  intro child listed
  obtain ⟨node, member, rfl⟩ := List.mem_map.mp listed
  refine ⟨plain.scope, ?_⟩
  obtain ⟨outer, parent⟩ := place
  cases plain.node with
  | element fixed inside => exact inside node member
  | text | comment | instruction => cases member

theorem inside_within (plain : place.Plain) :
    (place.within uri).inside = place.inside.map (Place.within uri) := by
  rw [Place.inside, Place.inside, plain.scope_within, content_within, List.map_map, List.map_map]
  rfl

/-- The element is written as it was, since its namespace is the one in force. -/
theorem markup_within (plain : place.Plain) (ordinary : uri ≠ xmlUri) :
    (place.within uri).markup = place.markup := by
  obtain ⟨outer, node⟩ := place
  obtain ⟨rfl, nodePlain⟩ := plain
  exact nodePlain.markup_within ordinary

/-- The tag is written as it was. -/
theorem tag_within (plain : place.Plain) (ordinary : uri ≠ xmlUri) :
    (place.within uri).tag = place.tag := by
  obtain ⟨outer, node⟩ := place
  obtain ⟨rfl, nodePlain⟩ := plain
  cases nodePlain with
  | element fixed inside => exact Scope.qualify_default ordinary _
  | text | comment | instruction => rfl

theorem children (plain : place.Plain) (localName : String) :
    ∀ child ∈ place.children localName, child.Plain := by
  intro child listed
  exact plain.inside child (List.mem_filter.mp listed).1

theorem children_within (plain : place.Plain) (localName : String) :
    (place.within uri).children localName = (place.children localName).map (Place.within uri) := by
  rw [Place.children, Place.children, plain.inside_within, List.filter_map]
  apply congrArg (List.map _)
  apply List.filter_congr
  intro child _
  exact isNamed_within uri child localName

end Plain

end Place

end Xml

/-! ### What is read -/

variable {uri : String} {place : Place}

/-- A child contributes the same elements in the namespace. -/
theorem Way.pick_within_namespace (way : Way) (plain : place.Plain) :
    way.pick (place.within uri) = (way.pick place).map (Place.within uri) := by
  have sameNames : (place.within uri).isNamed = place.isNamed :=
    funext (place.isNamed_within uri)
  rw [Way.pick, Way.pick, sameNames, plain.children_within, List.map_append]
  congr 1
  · split
    · rfl
    · rfl
  · split
    · rfl
    · rfl

/-- The same elements are looked up in the namespace. -/
theorem Way.select_within_namespace (way : Way) (plain : place.Plain) :
    way.select (place.within uri) = (way.select place).map (Place.within uri) := by
  rw [Way.select_eq_flatMap, Way.select_eq_flatMap, plain.inside_within, List.flatMap_map,
    ← Way.counted_map, List.map_flatMap]
  apply congrArg way.counted
  apply List.flatMap_congr
  intro child listed
  exact way.pick_within_namespace (plain.inside child listed)

/-- What is looked up has no declarations either. -/
theorem Way.plain_of_mem_select {way : Way} (plain : place.Plain) {found : Place}
    (listed : found ∈ way.select place) : found.Plain := by
  rw [Way.select_eq_flatMap] at listed
  obtain ⟨child, member, picked⟩ := List.mem_flatMap.mp (way.mem_of_mem_counted listed)
  have childPlain := plain.inside child member
  rcases List.mem_append.mp picked with itself | inside
  · split at itself
    · exact List.mem_singleton.mp itself ▸ childPlain
    · cases itself
  · split at inside
    · exact childPlain.children _ found inside
    · cases inside

/-- Whatever is read, it is the same in the namespace. -/
theorem Reading.same_within (reading : Reading) (plain : place.Plain)
    (ordinary : uri ≠ Xml.xmlUri) : reading.Same (place.within uri) place := by
  induction reading generalizing place with
  | nothing => exact True.intro
  | attributes => exact place.attributes_within uri
  | text => exact Node.innerText_within uri [] place.node
  | markup => exact ⟨plain.markup_within ordinary, plain.tag_within ordinary⟩
  | part way item rest sameItem sameRest =>
      refine ⟨?_, sameRest plain⟩
      rw [way.select_within_namespace plain, List.forall₂_map_left_iff]
      apply List.forall₂_same.mpr
      intro found listed
      exact sameItem (Way.plain_of_mem_select plain listed)

/-! ### Where configurations are -/

section Configurations

variable {node : Node}

/-- The same configurations stand in several nodes when they do in each. -/
theorem configurationPlacesInside_within {enclosed : Bool} {nodes : List Node}
    (each : ∀ node ∈ nodes, configurationPlaces enclosed (.default uri) (node.within uri []) =
      (configurationPlaces enclosed [] node).map (Place.within uri)) :
    configurationPlacesInside enclosed (.default uri) (Node.withinAll uri nodes) =
      (configurationPlacesInside enclosed [] nodes).map (Place.within uri) := by
  rw [configurationPlacesInside_eq_flatMap, configurationPlacesInside_eq_flatMap,
    Node.withinAll_eq_map, List.flatMap_map, List.map_flatMap]
  exact List.flatMap_congr each

/-- The same configurations stand in a node in the namespace. -/
theorem configurationPlaces_within (plain : node.Plain) (enclosed : Bool) :
    configurationPlaces enclosed (.default uri) (node.within uri []) =
      (configurationPlaces enclosed [] node).map (Place.within uri) := by
  induction plain generalizing enclosed with
  | @element name attributes content fixed inside ih =>
      have found := configurationPlacesInside_within fun node listed =>
        ih node listed (enclosed || name == "configurations")
      -- Places are found by local names, which are the same in the namespace.
      have sameName : (ExpandedName.within uri ⟨none, name⟩).localName = name := rfl
      rw [Node.within, configurationPlaces_element, configurationPlaces_element, List.map_append,
        sameName]
      refine congrArg₂ (· ++ ·) ?_ found
      split
      · rfl
      · rfl
  | text | comment | instruction => rfl

/-- Configurations have no declarations where their document has none. -/
theorem plain_of_mem_configurationPlaces (plain : node.Plain) {enclosed : Bool} {place : Place}
    (listed : place ∈ configurationPlaces enclosed [] node) : place.Plain := by
  induction plain generalizing enclosed with
  | @element name attributes content fixed inside ih =>
      rw [configurationPlaces_element] at listed
      rcases List.mem_append.mp listed with itself | deeper
      · split at itself
        · rw [List.mem_singleton.mp itself]
          exact ⟨rfl, .element fixed inside⟩
        · cases itself
      · rw [configurationPlacesInside_eq_flatMap] at deeper
        obtain ⟨child, member, found⟩ := List.mem_flatMap.mp deeper
        exact ih child member found
  | text | comment | instruction => cases listed

/-- The top element itself is not the place of a configuration. -/
theorem configurationPlaces_top_within (plain : node.Plain) :
    configurationPlaces false [] (node.within uri (.default uri)) =
      (configurationPlaces false [] node).map (Place.within uri) := by
  cases plain with
  | @element name attributes content fixed inside =>
      rw [Node.within, configurationPlaces_element, configurationPlaces_element]
      exact configurationPlacesInside_within fun node listed =>
        configurationPlaces_within (inside node listed) _
  | text | comment | instruction => rfl

end Configurations

/-- A document without declarations has the same configurations in a namespace. -/
theorem readConfigurations_within {document : Xml.Document} (ordinary : uri ≠ Xml.xmlUri)
    (plain : ∀ node ∈ document.nodes, node.Plain) :
    readConfigurations (document.within uri) = readConfigurations document := by
  have places : configurationPlacesInside false [] (document.within uri).nodes =
      (configurationPlacesInside false [] document.nodes).map (Place.within uri) := by
    rw [configurationPlacesInside_eq_flatMap, configurationPlacesInside_eq_flatMap,
      Xml.Document.within, List.flatMap_map, List.map_flatMap]
    exact List.flatMap_congr fun node listed => configurationPlaces_top_within (plain node listed)
  rw [readConfigurations, readConfigurations, places, List.map_map]
  apply List.map_congr_left
  intro place listed
  rw [configurationPlacesInside_eq_flatMap] at listed
  obtain ⟨node, member, found⟩ := List.mem_flatMap.mp listed
  apply readConfiguration_eq
  exact Reading.configuration.same_within
    (plain_of_mem_configurationPlaces (plain node member) found) ordinary

/-- A text with the declaration in its top tag, however it came there, reads the same. -/
theorem configurationsIn?_of_addsToTop {text other uri : String} {document : Xml.Document}
    (parsed : Xml.Document.parse? text = some document) (undeclared : document.Undeclared)
    (ordinary : uri ≠ Xml.xmlUri) (allowed : uri ≠ Xml.declarationUri)
    (added : Xml.AddsToTop (Xml.defaultItem uri) text other) :
    configurationsIn? other = configurationsIn? text := by
  obtain ⟨front, name, before, after, closed, back, misc, textCut, otherCut⟩ := added
  have plain : ∀ node ∈ document.nodes, node.Plain := by
    intro node listed
    apply ((Xml.Document.parse?_accepted parsed).nodes node listed).plain rfl
    exact Xml.Document.undeclared_iff.mp undeclared node listed
  have read : Xml.Document.parse? other = some (document.within uri) := by
    rw [Xml.Document.parse?_eq_bind, textCut, Option.bind_some] at parsed
    rw [Xml.Document.parse?_eq_bind, otherCut, Option.bind_some]
    exact Xml.Document.ofPieces?_within ordinary allowed misc parsed undeclared
  rw [configurationsIn?, configurationsIn?, parsed, read, Option.map_some, Option.map_some,
    readConfigurations_within ordinary plain]

/-- **A document may be put into a namespace.** When a document declares no
namespace, the configurations in it are the same with the declaration of a default
namespace in the start tag of its top element, wherever the declaration stands among
the attributes, and however it is written. In particular it may be inserted behind
the name of the element, as any quoted text that denotes the namespace. -/
theorem configurationsIn?_withDefaultNamespace {text uri : String} {document : Xml.Document}
    (parsed : Xml.Document.parse? text = some document) (undeclared : document.Undeclared)
    (ordinary : uri ≠ Xml.xmlUri) (allowed : uri ≠ Xml.declarationUri) :
    (∀ other, Xml.AddsToTop (Xml.defaultItem uri) text other →
        configurationsIn? other = configurationsIn? text) ∧
      ∀ written : String, Xml.IsQuoted '"' written.toList →
        Xml.valueOf? written.toList = some uri →
          Xml.AddsToTop (Xml.defaultItem uri) text (Xml.withDefaultNamespace written text) ∧
            configurationsIn? (Xml.withDefaultNamespace written text) = configurationsIn? text := by
  have unchanged : ∀ other, Xml.AddsToTop (Xml.defaultItem uri) text other →
      configurationsIn? other = configurationsIn? text := by
    intro other added
    exact configurationsIn?_of_addsToTop parsed undeclared ordinary allowed added
  refine ⟨unchanged, fun written quoted denotes => ?_⟩
  rw [Xml.Document.parse?_eq_bind] at parsed
  obtain ⟨pieces, cut, assembled⟩ := Option.bind_eq_some_iff.mp parsed
  obtain ⟨front, name, items, closed, back, misc, rfl⟩ :=
    Xml.Document.exists_startTag_of_ofPieces? assembled
  have added := Xml.addsToTop_withDefaultNamespace misc cut quoted denotes
  exact ⟨added, unchanged _ added⟩

/-- A comment that looks like a tag stands before the top element, and the template
has attributes of the label `xml`. -/
def plainText : String :=
  "<?xml version='1.0'?><!-- <a> --><configurations xml:lang='en'>
    <configuration><mappings><mappingOut><templateFields><templateField>
      <template>A <b xml:id='x' c='1'>%t%</b></template>
    </templateField></templateFields></mappingOut></mappings></configuration>
  </configurations>"

/-- The same document with a default namespace. -/
def plainTextInNamespace : String :=
  "<?xml version='1.0'?><!-- <a> --><configurations xmlns=\"urn:r&amp;s\" xml:lang='en'>
    <configuration><mappings><mappingOut><templateFields><templateField>
      <template>A <b xml:id='x' c='1'>%t%</b></template>
    </templateField></templateFields></mappingOut></mappings></configuration>
  </configurations>"

set_option maxRecDepth 8000 in
/-- The markup of the template does not show the namespace. -/
theorem configurationsIn?_withDefaultNamespace_plainText :
    ∃ document, Xml.Document.parse? plainText = some document ∧ document.Undeclared ∧
      (readConfigurations document).flatMap (fun configuration =>
        configuration.outboundMappings.flatMap (·.templates.map Template.text)) =
          ["A <b xml:id=\"x\" c=\"1\">%t%</b>"] ∧
      Xml.withDefaultNamespace "urn:r&amp;s" plainText = plainTextInNamespace ∧
      Xml.AddsToTop (Xml.defaultItem "urn:r&s") plainText plainTextInNamespace ∧
      configurationsIn? plainTextInNamespace = configurationsIn? plainText := by
  have read : (Xml.Document.parse? plainText).any (fun document =>
      decide (document.Undeclared ∧
        (readConfigurations document).flatMap (fun configuration =>
          configuration.outboundMappings.flatMap (·.templates.map Template.text)) =
            ["A <b xml:id=\"x\" c=\"1\">%t%</b>"])) = true :=
    (congrArg (Option.any _) (Xml.Document.parse?_ofList _)).trans (by decide +kernel)
  obtain ⟨document, parsed, checks⟩ := (Option.any_eq_true _ _).mp read
  obtain ⟨undeclared, templates⟩ := of_decide_eq_true checks
  have added : Xml.withDefaultNamespace "urn:r&amp;s" plainText = plainTextInNamespace :=
    (Xml.withDefaultNamespace_ofList _ _).trans (congrArg String.ofList (by decide +kernel))
  have quoted : Xml.IsQuoted '"' "urn:r&amp;s".toList :=
    ⟨.inl rfl, List.all_eq_true.mp (by decide), by decide, by decide⟩
  have denotes : Xml.valueOf? "urn:r&amp;s".toList = some "urn:r&s" := by decide +kernel
  have ordinary : "urn:r&s" ≠ Xml.xmlUri := by decide
  have allowed : "urn:r&s" ≠ Xml.declarationUri := by decide
  obtain ⟨-, inserted⟩ :=
    configurationsIn?_withDefaultNamespace parsed undeclared ordinary allowed
  have same := inserted "urn:r&amp;s" quoted denotes
  rw [added] at same
  exact ⟨document, parsed, undeclared, templates, added, same⟩

end IssueSync
