import IssueSync.Rule.Configuration
import IssueSync.Xml.Markup
import IssueSync.Xml.Document

/-! # Reading configurations from a document

Every element `configuration` with an element `configurations` around it, at
any depth, holds a configuration. Inside it only fixed paths of elements are
read, each by local names. An optional text that is empty counts as missing.
-/

namespace IssueSync

open Xml (Place)

/-- The trimmed texts of the elements `item` inside the elements `group`, as
far as they are not blank. -/
def readTexts (place : Place) (group item : String) : TextSet :=
  TextSet.ofList <|
    (place.grandchildren group item).filterMap fun found => Text.trimmed? found.node.innerText

/-- The value mapping of a rule: the entries of all its `maps`, if it has any.
A missing key or value counts as the empty text. -/
def readValueMapping (place : Place) : Option (TextMap String) :=
  if (place.children "maps").isEmpty then none
  else some <| TextMap.ofList <| (place.grandchildren "maps" "map").map fun entry =>
    ((entry.node.attribute? "key").getD "", (entry.node.attribute? "value").getD "")

/-- What fields and templates have in common. A default value may be the empty text, the
other texts may not. -/
def readCorrespondence (place : Place) : Correspondence where
  propertyNamespace := place.node.filledAttribute? "ns"
  propertyName := place.node.filledAttribute? "name"
  fieldType := place.node.filledAttribute? "fieldType"
  contentType := place.node.filledAttribute? "contentType"
  mapTo := place.node.filledAttribute? "mapTo"
  action := (place.node.attribute? "action").bind Action.ofName?
  valueMapping := readValueMapping place
  notifyChange := readFlag (place.node.attribute? "notifyChange") true
  defaultValue := (place.child? "default").bind (·.node.attribute? "value")

/-- The field at a place. -/
def readField (place : Place) : Field where
  toCorrespondence := readCorrespondence place
  id := place.node.filledAttribute? "id"
  xpath := place.node.filledAttribute? "xpath"
  keepTags := readFlag (place.node.attribute? "keepTags") false
  encodeHtml := readFlag (place.node.attribute? "encodeHtml") false
  toDateFormat := place.node.filledAttribute? "toDateFormat"
  fromDateFormat := place.node.filledAttribute? "fromDateFormat"

/-- The fields of a group, standing in it directly or inside `fields`. -/
def readGroupFields (place : Place) : List Field :=
  place.inside.flatMap fun item =>
    if item.isNamed "field" then [readField item]
    else if item.isNamed "fields" then (item.children "field").map readField
    else []

/-- The group of fields at a place. -/
def readGroup (place : Place) : FieldGroup where
  propertyNamespace := place.node.filledAttribute? "ns"
  propertyName := place.node.filledAttribute? "name"
  fields := readGroupFields place

/-- A template; its text is the markup inside the first `template`. -/
def readTemplate (place : Place) : Template where
  toCorrespondence := readCorrespondence place
  text := ((place.child? "template").map Place.contentMarkup).getD ""
  opening := (place.node.filledAttribute? "idPrefix").getD defaultDelimiter
  closing := (place.node.filledAttribute? "idSuffix").getD defaultDelimiter
  alwaysSave := place.node.filledAttribute? "alwaysSave"

/-- The headers of a connection. A header needs a name and a value, of which
the value may be empty; the last header of a name counts. -/
def readHeaders (connection : Place) : TextMap String :=
  TextMap.ofList <| (connection.grandchildren "headers" "header").filterMap fun header =>
    match header.node.filledAttribute? "name", header.node.attribute? "value" with
    | some name, some value => some (name, value)
    | _, _ => none

/-- The types a connection asks for. -/
def readRdfTypes (connection : Place) : TextSet :=
  TextSet.ofList <| (connection.grandchildren "rdfTypes" "rdfType").filterMap fun item =>
    (item.node.attribute? "value").bind Text.trimmed?

/-- A mapping; of several connections the first counts. -/
def readMapping (direction : Direction) (place : Place) : Mapping :=
  let connection := place.child? "connection"
  { direction
    headers := (connection.map readHeaders).getD ∅
    rdfTypes := (connection.map readRdfTypes).getD ∅
    username := connection.bind (·.node.filledAttribute? "username")
    password := connection.bind (·.node.filledAttribute? "password")
    fields := (place.grandchildren "fields" "field").map readField
    groups := (place.children "xmlFields").map readGroup
    templates := (place.grandchildren "templateFields" "templateField").map readTemplate }

/-- The configuration at a place. -/
def readConfiguration (place : Place) : Configuration where
  projects := readTexts place "projects" "project"
  issueTypes := readTexts place "issueTypes" "issueType"
  domains := readTexts place "domains" "domain"
  errorLogName := (place.child? "errorLog").bind (·.node.filledAttribute? "name")
  inboundMappings := (place.grandchildren "mappings" "mappingIn").map (readMapping .inbound)
  outboundMappings := (place.grandchildren "mappings" "mappingOut").map (readMapping .outbound)

mutual

/-- The places of the configurations in a node. Inside an element
`configurations`, which `enclosed` tells, every element `configuration` is one. -/
def configurationPlaces (enclosed : Bool) (outer : Xml.Scope) : Xml.Node → List Place
  | .element name declared attributes content =>
      let found := configurationPlacesInside
        (enclosed || name.localName == "configurations") (outer.extend declared) content
      if enclosed && name.localName == "configuration" then
        ⟨outer, .element name declared attributes content⟩ :: found
      else found
  | _ => []

/-- The places of the configurations in a list of nodes. -/
def configurationPlacesInside (enclosed : Bool) (outer : Xml.Scope) : List Xml.Node → List Place
  | [] => []
  | node :: rest =>
      configurationPlaces enclosed outer node ++ configurationPlacesInside enclosed outer rest

end

/-- The configurations of a document, in document order. -/
def readConfigurations (document : Xml.Document) : List Configuration :=
  (configurationPlacesInside false [] document.nodes).map readConfiguration

/-- The configurations that a text holds, when it is a document. -/
def configurationsIn? (text : String) : Option (List Configuration) :=
  (Xml.Document.parse? text).map readConfigurations

/-- Reading a text is reading its characters. -/
theorem configurationsIn?_ofList (characters : List Char) :
    configurationsIn? (String.ofList characters) =
      (Xml.Document.ofCharacters? characters).map readConfigurations := by
  rw [configurationsIn?, Xml.Document.parse?_ofList]

end IssueSync
