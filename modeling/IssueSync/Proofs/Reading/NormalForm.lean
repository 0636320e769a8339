import IssueSync.Proofs.Text.Trimming
import IssueSync.Rule.Placeholder
import IssueSync.Rule.Reading

/-! # The normal form of what is read

Whatever a document holds, the settings that are read are missing or filled,
the entries of sets are trimmed and not blank, headers have names, templates
have delimiters and mappings stand under their direction. Each reader keeps the
part of this that it builds, whatever the place it reads
(`Xml.Place.normal_readConfiguration`). So no declared identifier is empty and
no placeholder is (`configurationsIn?_normal`).
-/

namespace IssueSync

open Xml (Place)

/-! ### Normal forms -/

/-- A setting that is missing or has at least one character. -/
def MissingOrFilled (setting : Option String) : Prop :=
  setting ≠ some ""

/-- A text with at least one character that neither begins nor ends with a blank
one. -/
def IsEntry (text : String) : Prop :=
  text ≠ "" ∧ Text.IsTrimmed text.toList

/-- All members of a set are entries. -/
def TextSet.OfEntries (set : TextSet) : Prop :=
  ∀ member ∈ set, IsEntry member

/-- What fields and templates have in common, with no empty settings but the default
value. -/
structure Correspondence.Normal (rule : Correspondence) : Prop where
  propertyNamespace : MissingOrFilled rule.propertyNamespace
  propertyName : MissingOrFilled rule.propertyName
  fieldType : MissingOrFilled rule.fieldType
  contentType : MissingOrFilled rule.contentType
  mapTo : MissingOrFilled rule.mapTo

/-- A field without empty settings. -/
structure Field.Normal (field : Field) : Prop where
  correspondence : field.toCorrespondence.Normal
  id : MissingOrFilled field.id
  xpath : MissingOrFilled field.xpath
  toDateFormat : MissingOrFilled field.toDateFormat
  fromDateFormat : MissingOrFilled field.fromDateFormat

/-- A group without empty settings. -/
structure FieldGroup.Normal (group : FieldGroup) : Prop where
  propertyNamespace : MissingOrFilled group.propertyNamespace
  propertyName : MissingOrFilled group.propertyName
  fields : ∀ field ∈ group.fields, field.Normal

/-- A template with delimiters. -/
structure Template.Normal (template : Template) : Prop where
  correspondence : template.toCorrespondence.Normal
  opening : template.opening ≠ ""
  closing : template.closing ≠ ""
  alwaysSave : MissingOrFilled template.alwaysSave

/-- A mapping without empty settings and names. -/
structure Mapping.Normal (mapping : Mapping) : Prop where
  headers : ∀ name ∈ mapping.headers.keys, name ≠ ""
  rdfTypes : mapping.rdfTypes.OfEntries
  username : MissingOrFilled mapping.username
  password : MissingOrFilled mapping.password
  fields : ∀ field ∈ mapping.fields, field.Normal
  groups : ∀ group ∈ mapping.groups, group.Normal
  templates : ∀ template ∈ mapping.templates, template.Normal

/-- A configuration without empty settings and names, with its mappings under their
directions. -/
structure Configuration.Normal (configuration : Configuration) : Prop where
  projects : configuration.projects.OfEntries
  issueTypes : configuration.issueTypes.OfEntries
  domains : configuration.domains.OfEntries
  errorLogName : MissingOrFilled configuration.errorLogName
  direction : ∀ direction, ∀ mapping ∈ configuration.mappings direction,
    mapping.direction = direction
  mappings : ∀ direction, ∀ mapping ∈ configuration.mappings direction, mapping.Normal

/-! ### Settings and sets -/

/-- A trimmed text that is left is an entry. -/
theorem isEntry_of_trimmed? {text entry : String} (found : Text.trimmed? text = some entry) :
    IsEntry entry := by
  obtain ⟨filled, same⟩ := Text.trimmed?_eq_some_iff.mp found
  exact ⟨filled, same ▸ Text.isTrimmed_trimmed text.toList⟩

/-- A set is made of entries when everything put into it is an entry. -/
theorem ofEntries_ofList {members : List String} (entries : ∀ member ∈ members, IsEntry member) :
    (TextSet.ofList members).OfEntries := by
  intro member inSet
  exact entries member (TextSet.mem_ofList.mp inSet)

/-- The set without members has only entries. -/
theorem ofEntries_empty : (∅ : TextSet).OfEntries := by
  intro member inSet
  exact absurd inSet TextSet.not_mem_empty

theorem missingOrFilled_none : MissingOrFilled none := by
  intro present
  cases present

namespace Xml.Place

variable (place : Place)

/-- An attribute that is not empty makes a setting that is filled. -/
theorem missingOrFilled_filledAttribute? (localName : String) :
    MissingOrFilled (place.node.filledAttribute? localName) := by
  intro blank
  have filled := (Option.filter_eq_some_iff.mp blank).2
  exact absurd rfl (of_decide_eq_true filled)

/-- The same holds for an attribute of an element that may be missing. -/
theorem missingOrFilled_bind (found : Option Place) (localName : String) :
    MissingOrFilled (found.bind (·.node.filledAttribute? localName)) := by
  cases found with
  | none => exact missingOrFilled_none
  | some element => exact element.missingOrFilled_filledAttribute? localName

/-- In place of an attribute that is empty stands the default, so the setting is filled. -/
theorem filledAttribute?_getD_ne {default : String} (filled : default ≠ "") (localName : String) :
    (place.node.filledAttribute? localName).getD default ≠ "" := by
  have setting := place.missingOrFilled_filledAttribute? localName
  cases given : place.node.filledAttribute? localName with
  | none => exact filled
  | some value =>
      rw [given] at setting
      exact fun blank => setting (congrArg some blank)

/-- Sets of texts are made of entries. -/
theorem ofEntries_readTexts (group item : String) : (readTexts place group item).OfEntries := by
  apply ofEntries_ofList
  intro member listed
  obtain ⟨element, -, trimmed⟩ := List.mem_filterMap.mp listed
  exact isEntry_of_trimmed? trimmed

/-! ### Readers -/

/-- What fields and templates have in common is read in normal form. -/
theorem normal_readCorrespondence : (readCorrespondence place).Normal where
  propertyNamespace := place.missingOrFilled_filledAttribute? "ns"
  propertyName := place.missingOrFilled_filledAttribute? "name"
  fieldType := place.missingOrFilled_filledAttribute? "fieldType"
  contentType := place.missingOrFilled_filledAttribute? "contentType"
  mapTo := place.missingOrFilled_filledAttribute? "mapTo"

theorem normal_readField : (readField place).Normal where
  correspondence := place.normal_readCorrespondence
  id := place.missingOrFilled_filledAttribute? "id"
  xpath := place.missingOrFilled_filledAttribute? "xpath"
  toDateFormat := place.missingOrFilled_filledAttribute? "toDateFormat"
  fromDateFormat := place.missingOrFilled_filledAttribute? "fromDateFormat"

/-- Fields of a group stand in it directly or inside a wrapper, and both kinds
are read alike. -/
theorem normal_readGroupFields : ∀ field ∈ readGroupFields place, field.Normal := by
  intro field member
  obtain ⟨element, -, found⟩ := List.mem_flatMap.mp member
  split at found
  · rw [List.mem_singleton.mp found]
    exact element.normal_readField
  · split at found
    · obtain ⟨inner, -, rfl⟩ := List.mem_map.mp found
      exact inner.normal_readField
    · cases found

theorem normal_readGroup : (readGroup place).Normal where
  propertyNamespace := place.missingOrFilled_filledAttribute? "ns"
  propertyName := place.missingOrFilled_filledAttribute? "name"
  fields := place.normal_readGroupFields

theorem normal_readTemplate : (readTemplate place).Normal where
  correspondence := place.normal_readCorrespondence
  opening := place.filledAttribute?_getD_ne (by decide) "idPrefix"
  closing := place.filledAttribute?_getD_ne (by decide) "idSuffix"
  alwaysSave := place.missingOrFilled_filledAttribute? "alwaysSave"

/-- A header comes from an element with a name. -/
theorem ne_of_mem_keys_readHeaders {name : String} (member : name ∈ (readHeaders place).keys) :
    name ≠ "" := by
  obtain ⟨value, listed⟩ := TextMap.exists_of_mem_keys_ofList member
  obtain ⟨header, -, read⟩ := List.mem_filterMap.mp listed
  split at read
  · next given _ named _ =>
      cases read
      rintro rfl
      exact header.missingOrFilled_filledAttribute? "name" named
  · cases read

/-- The types of a connection are entries. -/
theorem ofEntries_readRdfTypes : (readRdfTypes place).OfEntries := by
  apply ofEntries_ofList
  intro member listed
  obtain ⟨element, -, read⟩ := List.mem_filterMap.mp listed
  obtain ⟨value, -, trimmed⟩ := Option.bind_eq_some_iff.mp read
  exact isEntry_of_trimmed? trimmed

/-- Mappings are read in normal form. -/
theorem normal_readMapping (direction : Direction) : (readMapping direction place).Normal where
  headers := by
    intro name member
    simp only [readMapping] at member
    cases found : place.child? "connection" with
    | none =>
        rw [found] at member
        cases member
    | some connection =>
        rw [found] at member
        exact connection.ne_of_mem_keys_readHeaders member
  rdfTypes := by
    simp only [readMapping]
    cases place.child? "connection" with
    | none => exact ofEntries_empty
    | some connection => exact connection.ofEntries_readRdfTypes
  username := missingOrFilled_bind (place.child? "connection") "username"
  password := missingOrFilled_bind (place.child? "connection") "password"
  fields := by
    intro field member
    obtain ⟨element, -, rfl⟩ := List.mem_map.mp member
    exact element.normal_readField
  groups := by
    intro group member
    obtain ⟨element, -, rfl⟩ := List.mem_map.mp member
    exact element.normal_readGroup
  templates := by
    intro template member
    obtain ⟨element, -, rfl⟩ := List.mem_map.mp member
    exact element.normal_readTemplate

/-- The mappings of a direction were all read under it. -/
theorem exists_of_mem_mappings {direction : Direction} {mapping : Mapping}
    (member : mapping ∈ (readConfiguration place).mappings direction) :
    ∃ element, mapping = readMapping direction element := by
  cases direction with
  | inbound =>
      obtain ⟨element, -, rfl⟩ := List.mem_map.mp member
      exact ⟨element, rfl⟩
  | outbound =>
      obtain ⟨element, -, rfl⟩ := List.mem_map.mp member
      exact ⟨element, rfl⟩

/-- Configurations are read in normal form. -/
theorem normal_readConfiguration : (readConfiguration place).Normal where
  projects := place.ofEntries_readTexts "projects" "project"
  issueTypes := place.ofEntries_readTexts "issueTypes" "issueType"
  domains := place.ofEntries_readTexts "domains" "domain"
  errorLogName := missingOrFilled_bind (place.child? "errorLog") "name"
  direction := by
    intro direction mapping member
    obtain ⟨element, rfl⟩ := place.exists_of_mem_mappings member
    rfl
  mappings := by
    intro direction mapping member
    obtain ⟨element, rfl⟩ := place.exists_of_mem_mappings member
    exact element.normal_readMapping direction

end Xml.Place

/-! ### What the normal form is for -/

namespace Mapping.Normal

variable {mapping : Mapping}

/-- All fields of a mapping are in normal form, those in groups included. -/
theorem allFields (normal : mapping.Normal) : ∀ field ∈ mapping.allFields, field.Normal := by
  intro field member
  rcases List.mem_append.mp member with single | grouped
  · exact normal.fields field single
  · obtain ⟨group, listed, inner⟩ := List.mem_flatMap.mp grouped
    exact (normal.groups group listed).fields field inner

/-- No field has the empty identifier. -/
theorem ne_of_mem_fieldIds (normal : mapping.Normal) {id : String}
    (member : id ∈ mapping.fieldIds) : id ≠ "" := by
  obtain ⟨field, listed, named⟩ := List.mem_filterMap.mp member
  rintro rfl
  exact (normal.allFields field listed).id named

end Mapping.Normal

/-- A placeholder has at least the characters of its delimiters. -/
theorem Template.Normal.text_ne_of_mem_occurrences {template : Template}
    (normal : template.Normal) {occurrence : Occurrence}
    (member : occurrence ∈ template.occurrences) : occurrence.text ≠ "" := by
  obtain ⟨id, -, rfl⟩ := List.mem_map.mp member
  intro blank
  rw [← String.toList_eq_nil_iff, Template.placeholder, String.toList_append, String.toList_append,
    List.append_eq_nil_iff, List.append_eq_nil_iff] at blank
  exact normal.opening (String.toList_eq_nil_iff.mp blank.1.1)

/-- **Normal form.** Every configuration that a text holds is in normal form, so
none of its mappings declares the empty identifier, and in none of its templates
a placeholder is empty. -/
theorem configurationsIn?_normal {text : String} {configurations : List Configuration}
    (read : configurationsIn? text = some configurations) :
    ∀ configuration ∈ configurations, configuration.Normal ∧
      ∀ direction, ∀ mapping ∈ configuration.mappings direction,
        "" ∉ mapping.declaredIds ∧
          ∀ template ∈ mapping.templates, ∀ occurrence ∈ template.occurrences,
            occurrence.text ≠ "" := by
  intro configuration member
  obtain ⟨document, -, rfl⟩ := Option.map_eq_some_iff.mp read
  obtain ⟨place, -, rfl⟩ := List.mem_map.mp member
  have normal := place.normal_readConfiguration
  refine ⟨normal, fun direction mapping listed => ?_⟩
  have mappingNormal := normal.mappings direction mapping listed
  constructor
  · intro declared
    exact mappingNormal.ne_of_mem_fieldIds (TextSet.mem_ofList.mp declared) rfl
  · intro template inMapping occurrence found
    exact (mappingNormal.templates template inMapping).text_ne_of_mem_occurrences found

/-- Empty and blank settings at every place where settings are read. -/
def blankSettingsText : String :=
  "<configurations><configuration><errorLog name=''/>
    <projects><project> </project><project> P </project></projects>
    <mappings><mappingOut>
      <connection username=''>
        <headers><header name='' value='1'/><header name='h' value=''/></headers>
        <rdfTypes><rdfType value=' t '/><rdfType value=' '/></rdfTypes>
      </connection>
      <fields><field id='' xpath=''/></fields>
      <xmlFields ns=''><field id='x' name=''/></xmlFields>
      <templateFields>
        <templateField idPrefix='' idSuffix='' alwaysSave=''><template>%%</template></templateField>
      </templateFields>
    </mappingOut></mappings>
  </configuration></configurations>"

/-- What is read of a document with a setting of each kind. -/
def filledConfiguration : Configuration where
  projects := TextSet.ofList ["P"]
  outboundMappings := [{
    direction := .outbound
    headers := TextMap.ofList [("h", "")]
    rdfTypes := TextSet.ofList ["t"]
    fields := [{}]
    groups := [{ fields := [{ id := "x" }] }]
    templates := [{ text := "%%" }] }]

set_option maxRecDepth 8000 in
/-- What is empty or blank is left out; a placeholder without an identifier still
has its delimiters. -/
theorem configurationsIn?_normal_blankSettingsText :
    configurationsIn? blankSettingsText = some [filledConfiguration] ∧
      filledConfiguration.Normal ∧
      ∀ occurrence ∈ ({ text := "%%" } : Template).occurrences, occurrence.text ≠ "" := by
  have read : configurationsIn? blankSettingsText = some [filledConfiguration] :=
    (configurationsIn?_ofList _).trans (by decide +kernel)
  obtain ⟨normal, mappings⟩ := configurationsIn?_normal read filledConfiguration
    (List.mem_singleton_self _)
  exact ⟨read, normal, (mappings .outbound _ (List.mem_singleton_self _)).2 _
    (List.mem_singleton_self _)⟩

end IssueSync
