import Mathlib.Data.List.Forall2
import IssueSync.Proofs.Reading.MappingPlaces

/-! # The parts of an element that are read

What is read from an element is a finite tree of parts: its attributes, its
text or its markup, and the parts of the elements that are looked up in it. Two
places that have the same parts read the same (`readConfiguration_eq`). Which
elements are looked up is a table (`Reading.configuration`), so that what a
change of a document can do to the configurations is a matter of that table
alone.
-/

namespace IssueSync

open Xml (Frame Node Place Scope)

/-! ### Where elements are looked up -/

/-- The elements named `item` of an element: its children, when `direct`, and
those inside its children of the name `container`. All of them count, or only
the first. -/
structure Way where
  item : String
  direct : Bool
  container : Option String
  onlyFirst : Bool
  deriving DecidableEq

namespace Way

/-- The first child of a name. -/
def first (item : String) : Way := ⟨item, true, none, true⟩

/-- The children of a name. -/
def each (item : String) : Way := ⟨item, true, none, false⟩

/-- The children of a name in the containers of a name. -/
def within (container item : String) : Way := ⟨item, false, some container, false⟩

/-- The elements of a name, on their own or in the containers of a name. -/
def grouped (container item : String) : Way := ⟨item, true, some container, false⟩

variable (way : Way)

/-- What a child contributes to the elements that are looked up. -/
def pick (child : Place) : List Place :=
  (if way.direct && child.isNamed way.item then [child] else []) ++
    if way.container.any child.isNamed then child.children way.item else []

/-- What the nodes of an element contribute together. -/
def found (scope : Scope) (nodes : List Node) : List Place :=
  nodes.flatMap fun node => way.pick ⟨scope, node⟩

/-- The places that count: all of them or only the first. -/
def counted (places : List Place) : List Place :=
  if way.onlyFirst then places.take 1 else places

/-- The elements that are looked up in an element. -/
def select (place : Place) : List Place :=
  way.counted (way.found place.scope place.node.content)

/-- The elements that are looked up are those that the places inside contribute. -/
theorem select_eq_flatMap (place : Place) :
    way.select place = way.counted (place.inside.flatMap way.pick) := by
  rw [select, found, Place.inside, List.flatMap_map]

/-- How many places count does not depend on what they are. -/
theorem counted_map (change : Place → Place) (places : List Place) :
    way.counted (places.map change) = (way.counted places).map change := by
  unfold counted
  split
  · exact (List.map_take ..).symm
  · rfl

/-- What counts was found. -/
theorem mem_of_mem_counted {places : List Place} {found : Place}
    (listed : found ∈ way.counted places) : found ∈ places := by
  unfold counted at listed
  split at listed
  · exact List.mem_of_mem_take listed
  · exact listed

theorem found_append (scope : Scope) (front back : List Node) :
    way.found scope (front ++ back) = way.found scope front ++ way.found scope back :=
  List.flatMap_append

theorem found_cons (scope : Scope) (node : Node) (nodes : List Node) :
    way.found scope (node :: nodes) = way.pick ⟨scope, node⟩ ++ way.found scope nodes :=
  List.flatMap_cons

/-- Only elements contribute. -/
theorem pick_eq_nil_of_isElement_eq_false {scope : Scope} {node : Node}
    (other : node.isElement = false) : way.pick ⟨scope, node⟩ = [] := by
  obtain ⟨item, direct, container, onlyFirst⟩ := way
  cases node with
  | element _ _ _ _ => cases other
  | text _ | comment _ | instruction _ _ =>
      cases container with
      | none => simp [pick, Place.isNamed, Node.isNamed, Node.localName?]
      | some _ => simp [pick, Place.isNamed, Node.isNamed, Node.localName?]

/-- Places that are filtered out give nothing. -/
theorem flatMap_filter_eq (keep : Place → Bool) (give : Place → List Place)
    (places : List Place) :
    (places.filter keep).flatMap give =
      places.flatMap fun place => if keep place then give place else [] := by
  induction places with
  | nil => rfl
  | cons place rest ih =>
      rw [List.flatMap_cons, List.filter_cons, ← ih]
      split
      · rw [List.flatMap_cons]
      · rw [List.nil_append]

/-- Looking up each child of a name gives the children of that name. -/
theorem select_each (item : String) (place : Place) :
    (each item).select place = place.children item := by
  have picked : (each item).pick = fun child => if child.isNamed item then [child] else [] := by
    funext child
    simp [pick, each]
  rw [Place.children, ← List.flatMap_singleton' (List.filter _ _), flatMap_filter_eq, ← picked,
    Place.inside, List.flatMap_map]
  rfl

theorem head?_select_first (item : String) (place : Place) :
    ((first item).select place).head? = place.child? item := by
  have all : (first item).select place = ((each item).select place).take 1 := rfl
  rw [all, select_each, List.head?_take, if_neg Nat.one_ne_zero, Frame.child?_eq_head?]

/-- Looking up elements in containers of a name gives the grandchildren. -/
theorem select_within (container item : String) (place : Place) :
    (within container item).select place = place.grandchildren container item := by
  have picked : (within container item).pick =
      fun child => if child.isNamed container then child.children item else [] := rfl
  rw [Place.grandchildren, Place.children, flatMap_filter_eq, ← picked, Place.inside,
    List.flatMap_map]
  rfl

/-- The fields of a group are looked up as fields on their own or in a container. -/
theorem select_grouped (place : Place) :
    (grouped "fields" "field").select place = place.groupFields := by
  have each : ∀ child : Place, (grouped "fields" "field").pick child =
      if child.isNamed "field" then [child]
      else if child.isNamed "fields" then child.children "field" else [] := by
    intro child
    by_cases single : child.isNamed "field" = true
    · have wrapper : child.isNamed "fields" = false := by
        have named := of_decide_eq_true single
        simp [Place.isNamed, Node.isNamed, named]
      simp [pick, grouped, single, wrapper]
    · rw [if_neg single]
      by_cases wrapper : child.isNamed "fields" = true
      · simp [pick, grouped, single, wrapper]
      · simp [pick, grouped, single, wrapper]
  rw [Place.groupFields, ← funext each, Place.inside, List.flatMap_map]
  rfl

end Way

/-! ### What is read -/

/-- What is read from an element: its attributes, its text, its markup, or
parts of the elements that are looked up in it. -/
inductive Reading where
  | nothing
  | attributes
  | text
  | markup
  | part (way : Way) (item rest : Reading)
  deriving DecidableEq

namespace Reading

/-- Two places have the same parts. -/
def Same : Reading → Place → Place → Prop
  | nothing, _, _ => True
  | attributes, first, second => first.node.attributes = second.node.attributes
  | text, first, second => first.node.innerText = second.node.innerText
  | markup, first, second => first.markup = second.markup ∧ first.tag = second.tag
  | part way item rest, first, second =>
      List.Forall₂ item.Same (way.select first) (way.select second) ∧ rest.Same first second

/-- The parts of a correspondence, other than its attributes. That it has
`maps` counts even when they are empty. -/
def correspondence (rest : Reading) : Reading :=
  part (.first "maps") nothing <| part (.within "maps" "map") attributes <|
    part (.first "default") attributes rest

/-- The parts of a field. -/
def field : Reading :=
  correspondence attributes

/-- The parts of a template field. -/
def templateField : Reading :=
  correspondence <| part (.first "template") markup attributes

/-- The parts of a group of fields. -/
def group : Reading :=
  part (.grouped "fields" "field") field attributes

/-- The parts of a connection. -/
def connection : Reading :=
  part (.within "headers" "header") attributes <|
    part (.within "rdfTypes" "rdfType") attributes attributes

/-- The parts of a mapping. Only the first connection counts. -/
def mapping : Reading :=
  part (.first "connection") connection <| part (.within "fields" "field") field <|
    part (.each "xmlFields") group <|
      part (.within "templateFields" "templateField") templateField nothing

/-- The parts of a configuration. -/
def configuration : Reading :=
  part (.within "projects" "project") text <| part (.within "issueTypes" "issueType") text <|
    part (.within "domains" "domain") text <| part (.first "errorLog") attributes <|
      part (.within "mappings" "mappingIn") mapping <|
        part (.within "mappings" "mappingOut") mapping nothing

@[refl]
theorem Same.refl (reading : Reading) (place : Place) : reading.Same place place := by
  induction reading generalizing place with
  | nothing => exact True.intro
  | attributes | text => rfl
  | markup => exact ⟨rfl, rfl⟩
  | part way item rest sameItem sameRest =>
      exact ⟨List.forall₂_same.mpr fun found _ => sameItem found, sameRest place⟩

/-- Having the same parts is reflexive. -/
instance (reading : Reading) : Std.Refl reading.Same := ⟨Same.refl reading⟩

end Reading

/-! ### The same parts read the same -/

section Readers

variable {reading : Reading} {first second : Place} {item : String} {α : Type}

/-- Places that have the same parts pairwise give the same list, read by anything that needs
no other parts. -/
theorem map_eq_of_forall₂_same {read : Place → α} {firsts seconds : List Place}
    (same : List.Forall₂ reading.Same firsts seconds)
    (agree : ∀ first second, reading.Same first second → read first = read second) :
    firsts.map read = seconds.map read := by
  induction same with
  | nil => rfl
  | cons head _ ih => rw [List.map_cons, List.map_cons, agree _ _ head, ih]

/-- The same holds where some places give nothing. -/
theorem filterMap_eq_of_forall₂_same {read : Place → Option α} {firsts seconds : List Place}
    (same : List.Forall₂ reading.Same firsts seconds)
    (agree : ∀ first second, reading.Same first second → read first = read second) :
    firsts.filterMap read = seconds.filterMap read := by
  induction same with
  | nil => rfl
  | cons head _ ih => rw [List.filterMap_cons, List.filterMap_cons, agree _ _ head, ih]

/-- The first children of a name have the same parts when what is looked up has. -/
theorem child?_same (same : List.Forall₂ reading.Same ((Way.first item).select first)
    ((Way.first item).select second)) :
    Option.Rel reading.Same (first.child? item) (second.child? item) := by
  rw [← Way.head?_select_first, ← Way.head?_select_first]
  generalize (Way.first item).select first = firsts at same
  generalize (Way.first item).select second = seconds at same
  cases same with
  | nil => exact .none
  | cons head _ => exact .some head

/-- A child that has the same parts reads the same. -/
theorem map_eq_of_rel_same {read : Place → α} {first second : Option Place}
    (same : Option.Rel reading.Same first second)
    (agree : ∀ first second, reading.Same first second → read first = read second) :
    first.map read = second.map read := by
  cases same with
  | some both => exact congrArg some (agree _ _ both)
  | none => rfl

/-- The same holds where some children give nothing. -/
theorem bind_eq_of_rel_same {read : Place → Option α} {first second : Option Place}
    (same : Option.Rel reading.Same first second)
    (agree : ∀ first second, reading.Same first second → read first = read second) :
    first.bind read = second.bind read := by
  cases same with
  | some both => exact agree _ _ both
  | none => rfl

/-- Nodes with the same attributes have the same value for each name. -/
theorem attribute?_eq {first second : Node} (same : first.attributes = second.attributes) :
    first.attribute? = second.attribute? := by
  funext localName
  rw [Node.attribute?, Node.attribute?, same]

/-- They also have the same values that are not empty. -/
theorem filledAttribute?_eq {first second : Node} (same : first.attributes = second.attributes) :
    first.filledAttribute? = second.filledAttribute? := by
  funext localName
  rw [Node.filledAttribute?, Node.filledAttribute?, attribute?_eq same]

/-- Sets of texts are read from the texts of the items. -/
theorem readTexts_eq {group : String}
    (same : List.Forall₂ Reading.text.Same ((Way.within group item).select first)
      ((Way.within group item).select second)) :
    readTexts first group item = readTexts second group item := by
  rw [Way.select_within, Way.select_within] at same
  exact congrArg TextSet.ofList
    (filterMap_eq_of_forall₂_same same fun _ _ text => congrArg Text.trimmed? text)

/-- There are no children of a name when there is no first one. -/
theorem isEmpty_children (place : Place) (localName : String) :
    (place.children localName).isEmpty = (place.child? localName).isNone := by
  rw [Frame.child?_eq_head?]
  cases place.children localName with
  | nil => rfl
  | cons _ _ => rfl

/-- A value mapping is read from the attributes of its entries, and from being there. -/
theorem readValueMapping_eq
    (presence : List.Forall₂ Reading.nothing.Same ((Way.first "maps").select first)
      ((Way.first "maps").select second))
    (entries : List.Forall₂ Reading.attributes.Same ((Way.within "maps" "map").select first)
      ((Way.within "maps" "map").select second)) :
    readValueMapping first = readValueMapping second := by
  have empty : (first.children "maps").isEmpty = (second.children "maps").isEmpty := by
    have heads := map_eq_of_rel_same (child?_same presence) fun _ _ _ => Eq.refl ()
    rw [isEmpty_children, isEmpty_children, ← Option.isNone_map, heads, Option.isNone_map]
  rw [Way.select_within, Way.select_within] at entries
  rw [readValueMapping, readValueMapping, empty, map_eq_of_forall₂_same entries]
  intro one other same
  rw [attribute?_eq same]

/-- What fields and templates have in common is read from its parts. -/
theorem readCorrespondence_eq {rest : Reading}
    (attributes : first.node.attributes = second.node.attributes)
    (same : (Reading.correspondence rest).Same first second) :
    readCorrespondence first = readCorrespondence second := by
  obtain ⟨presence, entries, default, -⟩ := same
  have defaultValue : (first.child? "default").bind (·.node.attribute? "value") =
      (second.child? "default").bind (·.node.attribute? "value") :=
    bind_eq_of_rel_same (child?_same default) fun _ _ same =>
      congrFun (attribute?_eq same) "value"
  rw [readCorrespondence, readCorrespondence, filledAttribute?_eq attributes,
    attribute?_eq attributes, readValueMapping_eq presence entries, defaultValue]

theorem readField_eq (same : Reading.field.Same first second) :
    readField first = readField second := by
  have ⟨_, _, _, attributes⟩ := same
  rw [readField, readField, readCorrespondence_eq attributes same,
    filledAttribute?_eq attributes, attribute?_eq attributes]

theorem readTemplate_eq (same : Reading.templateField.Same first second) :
    readTemplate first = readTemplate second := by
  have ⟨_, _, _, template, attributes⟩ := same
  have markup : (first.child? "template").map Place.contentMarkup =
      (second.child? "template").map Place.contentMarkup :=
    map_eq_of_rel_same (child?_same template) fun _ _ ⟨markup, tag⟩ => by
      rw [Place.contentMarkup, Place.contentMarkup, markup, tag]
  rw [readTemplate, readTemplate, readCorrespondence_eq attributes same,
    filledAttribute?_eq attributes, markup]

theorem readGroup_eq (same : Reading.group.Same first second) :
    readGroup first = readGroup second := by
  obtain ⟨fields, attributes⟩ := same
  rw [Way.select_grouped, Way.select_grouped] at fields
  rw [readGroup, readGroup, filledAttribute?_eq attributes, readGroupFields_eq,
    readGroupFields_eq, map_eq_of_forall₂_same fields fun _ _ => readField_eq]

/-- The headers are read from the parts of a connection. -/
theorem readHeaders_eq (same : Reading.connection.Same first second) :
    readHeaders first = readHeaders second := by
  obtain ⟨headers, -⟩ := same
  rw [Way.select_within, Way.select_within] at headers
  refine congrArg TextMap.ofList (filterMap_eq_of_forall₂_same headers ?_)
  intro one other same
  rw [filledAttribute?_eq same, attribute?_eq same]

theorem readRdfTypes_eq (same : Reading.connection.Same first second) :
    readRdfTypes first = readRdfTypes second := by
  obtain ⟨-, types, -⟩ := same
  rw [Way.select_within, Way.select_within] at types
  refine congrArg TextSet.ofList (filterMap_eq_of_forall₂_same types ?_)
  intro one other same
  rw [attribute?_eq same]

/-- A mapping is read from its parts. -/
theorem readMapping_eq (direction : Direction) (same : Reading.mapping.Same first second) :
    readMapping direction first = readMapping direction second := by
  obtain ⟨connection, fields, groups, templates, -⟩ := same
  have found := child?_same connection
  have credentials (localName : String) :
      (first.child? "connection").bind (·.node.filledAttribute? localName) =
        (second.child? "connection").bind (·.node.filledAttribute? localName) :=
    bind_eq_of_rel_same found fun _ _ ⟨_, _, same⟩ => congrFun (filledAttribute?_eq same) localName
  rw [Way.select_within, Way.select_within] at fields templates
  rw [Way.select_each, Way.select_each] at groups
  rw [readMapping, readMapping, map_eq_of_rel_same found fun _ _ => readHeaders_eq,
    map_eq_of_rel_same found fun _ _ => readRdfTypes_eq, credentials, credentials,
    map_eq_of_forall₂_same fields fun _ _ => readField_eq,
    map_eq_of_forall₂_same groups fun _ _ => readGroup_eq,
    map_eq_of_forall₂_same templates fun _ _ => readTemplate_eq]

/-- **Configurations with the same parts are the same.** -/
theorem readConfiguration_eq (same : Reading.configuration.Same first second) :
    readConfiguration first = readConfiguration second := by
  obtain ⟨projects, issueTypes, domains, errorLog, inbound, outbound, -⟩ := same
  have errorLogName : (first.child? "errorLog").bind (·.node.filledAttribute? "name") =
      (second.child? "errorLog").bind (·.node.filledAttribute? "name") :=
    bind_eq_of_rel_same (child?_same errorLog) fun _ _ same =>
      congrFun (filledAttribute?_eq same) "name"
  rw [Way.select_within, Way.select_within] at inbound outbound
  rw [readConfiguration, readConfiguration, readTexts_eq projects, readTexts_eq issueTypes,
    readTexts_eq domains, errorLogName, map_eq_of_forall₂_same inbound fun _ _ => readMapping_eq _,
    map_eq_of_forall₂_same outbound fun _ _ => readMapping_eq _]

end Readers

end IssueSync
