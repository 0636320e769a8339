import IssueSync.Proofs.Reading.ConfigurationPlaces
import IssueSync.Proofs.Xml.ContentMarkup

/-! # Mappings and fields in a document

The mappings that are read stand in the configurations of a document
(`readConfigurations_mappings`), and their fields in the mappings, on their own
or in groups (`allFields_readMapping`). All names there are names, so a template
element that holds one text gives its escaped form as the template text
(`text_of_onlyText?`).
-/

namespace IssueSync

open Xml (Document Frame Node Place Scope escape)

/-- The name of the elements that hold the mappings of a direction. -/
def Direction.elementName : Direction → String
  | .inbound => "mappingIn"
  | .outbound => "mappingOut"

/-- The places of the mappings of one direction, in document order. -/
def Xml.Document.mappings (document : Document) (direction : Direction) : List Place :=
  (configurationPlacesInside false [] document.nodes).flatMap
    (·.grandchildren "mappings" direction.elementName)

/-- The places of the mappings are those of the mappings that are read. -/
theorem readConfigurations_mappings (document : Document) (direction : Direction) :
    (readConfigurations document).flatMap (·.mappings direction) =
      (document.mappings direction).map (readMapping direction) := by
  rw [readConfigurations, List.flatMap_map, Document.mappings, List.map_flatMap]
  cases direction with
  | inbound => rfl
  | outbound => rfl

namespace Xml.Place

/-- The places of the template fields of a mapping. -/
def templateFields (mapping : Place) : List Place :=
  mapping.grandchildren "templateFields" "templateField"

/-- The places of the fields of a group, on their own or in a container. -/
def groupFields (group : Place) : List Place :=
  group.inside.flatMap fun item =>
    if item.isNamed "field" then [item]
    else if item.isNamed "fields" then item.children "field"
    else []

/-- The fields of a mapping, on their own or in groups. -/
def fields (mapping : Place) : List Place :=
  mapping.grandchildren "fields" "field" ++ (mapping.children "xmlFields").flatMap groupFields

/-- The text in the template element of a template field that holds one text
and nothing else. -/
def onlyText? (field : Place) : Option String :=
  match (field.child? "template").map fun template : Place => template.node.content with
  | some [Node.text characters] => some characters
  | _ => none

/-- The template element with the text in it. -/
theorem exists_of_onlyText? {field : Place} {characters : String}
    (single : field.onlyText? = some characters) :
    ∃ template, field.child? "template" = some template ∧
      template.node.content = [Node.text characters] := by
  unfold onlyText? at single
  split at single
  · next found =>
      cases single
      exact Option.map_eq_some_iff.mp found
  · cases single

end Xml.Place

/-- The fields of a group are read at their places. -/
theorem readGroupFields_eq (group : Place) :
    readGroupFields group = group.groupFields.map readField := by
  rw [readGroupFields, Place.groupFields, List.map_flatMap]
  refine congrArg (List.flatMap · group.inside) (funext fun item => ?_)
  by_cases single : item.isNamed "field" = true
  · rw [if_pos single, if_pos single, List.map_singleton]
  · rw [if_neg single, if_neg single]
    by_cases wrapper : item.isNamed "fields" = true
    · rw [if_pos wrapper, if_pos wrapper]
    · rw [if_neg wrapper, if_neg wrapper, List.map_nil]

/-- The fields of a mapping are read at their places, those in groups included. -/
theorem allFields_readMapping (direction : Direction) (place : Place) :
    (readMapping direction place).allFields = place.fields.map readField := by
  have groups : ((place.children "xmlFields").map readGroup).flatMap FieldGroup.fields =
      ((place.children "xmlFields").flatMap Place.groupFields).map readField := by
    rw [List.flatMap_map, List.map_flatMap]
    exact congrArg (List.flatMap · _) (funext readGroupFields_eq)
  rw [Mapping.allFields, Place.fields, List.map_append, ← groups]
  rfl

/-! ### Names along a path -/

/-- Around a place of well-named nodes the declarations and the nodes inside are
well named. -/
theorem aroundPath_wellNamed {outer : Scope} {path : List Frame} {content : List Node}
    (outerNamed : outer.WellNamed) (named : ∀ node ∈ aroundPath path content, node.WellNamed) :
    (pathScope outer path).WellNamed ∧ ∀ node ∈ content, node.WellNamed := by
  induction path generalizing outer with
  | nil => exact ⟨outerNamed, named⟩
  | cons frame inner ih =>
      have element := named (frame.element (aroundPath inner content))
        (List.mem_append_right _ List.mem_cons_self)
      cases element with
      | element _ declaredNamed _ inside => exact ih (outerNamed.extend declaredNamed) inside

/-- The configurations of a document with names stand at places with names. -/
theorem configuration_wellNamed {document : Document} {place : Place}
    (named : ∀ node ∈ document.nodes, node.WellNamed)
    (found : place ∈ configurationPlacesInside false [] document.nodes) : place.WellNamed := by
  obtain ⟨path, frame, content, nodes, -, -, rfl⟩ :=
    reachedBy_of_mem_configurationPlacesInside _ found
  rw [nodes] at named
  obtain ⟨scopeNamed, aroundNamed⟩ := aroundPath_wellNamed Scope.wellNamed_nil named
  exact ⟨scopeNamed, aroundNamed _ (List.mem_append_right _ List.mem_cons_self)⟩

/-- The mappings of an accepted document are well named. -/
theorem mapping_wellNamed {text : String} {document : Document} {direction : Direction}
    {place : Place} (parsed : Document.parse? text = some document)
    (listed : place ∈ document.mappings direction) : place.WellNamed := by
  obtain ⟨configuration, found, inside⟩ := List.mem_flatMap.mp listed
  exact (configuration_wellNamed (Document.parse?_wellNamed parsed) found).grandchildren inside

/-- A template element that holds one text gives the escaped text. -/
theorem text_of_onlyText? {field : Place} (named : field.WellNamed) {characters : String}
    (single : field.onlyText? = some characters) :
    (readTemplate field).text = escape .betweenTags characters := by
  obtain ⟨template, found, content⟩ := Place.exists_of_onlyText? single
  have markup := Place.contentMarkup_of_text (named.child? found) content
  rw [readTemplate, found, Option.map_some, Option.getD_some, markup]

end IssueSync
