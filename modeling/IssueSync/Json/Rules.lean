import IssueSync.Json.Value
import IssueSync.Rule.Configuration

/-! # Configurations as JSON

Every setting has its entry, a missing one being `null`. Passwords are left
out: no output shows them.
-/

namespace IssueSync

open Json (optionalText)

/-- A set is the list of its members in their order. -/
def TextSet.toJson (set : TextSet) : Json :=
  .list (set.members.map .text)

/-- A map is a record with its keys in their order. -/
def TextMap.toJson (map : TextMap String) : Json :=
  .record (map.entries.map fun (key, value) => (key, .text value))

/-- The entries that fields and templates share. -/
def Correspondence.jsonEntries (rule : Correspondence) : List (String × Json) :=
  [("namespace", optionalText rule.propertyNamespace),
    ("name", optionalText rule.propertyName),
    ("field_type", optionalText rule.fieldType),
    ("content_type", optionalText rule.contentType),
    ("map_to", optionalText rule.mapTo),
    ("action", optionalText (rule.action.map Action.name)),
    ("value_mapping", (rule.valueMapping.map TextMap.toJson).getD .null),
    ("notify_change", .flag rule.notifyChange),
    ("default_value", optionalText rule.defaultValue)]

/-- A field: what all correspondences have comes first. -/
def Field.toJson (field : Field) : Json :=
  .record <| field.jsonEntries ++
    [("id", optionalText field.id),
      ("xpath", optionalText field.xpath),
      ("keep_tags", .flag field.keepTags),
      ("encode_html", .flag field.encodeHtml),
      ("to_date_format", optionalText field.toDateFormat),
      ("from_date_format", optionalText field.fromDateFormat)]

/-- A group of fields. It has no other entries of a correspondence. -/
def FieldGroup.toJson (group : FieldGroup) : Json :=
  .record
    [("namespace", optionalText group.propertyNamespace),
      ("name", optionalText group.propertyName),
      ("fields", .list (group.fields.map Field.toJson))]

/-- A template: what all correspondences have comes first, as for a field. -/
def Template.toJson (template : Template) : Json :=
  .record <| template.jsonEntries ++
    [("template_text", .text template.text),
      ("id_prefix", .text template.opening),
      ("id_suffix", .text template.closing),
      ("always_save", optionalText template.alwaysSave)]

/-- The word for a direction in JSON. -/
def Direction.word : Direction → String
  | .inbound => "inbound"
  | .outbound => "outbound"

/-- A mapping without its password. -/
def Mapping.toJson (mapping : Mapping) : Json :=
  .record
    [("direction", .text mapping.direction.word),
      ("headers", mapping.headers.toJson),
      ("rdf_types", mapping.rdfTypes.toJson),
      ("username", optionalText mapping.username),
      ("fields", .list (mapping.fields.map Field.toJson)),
      ("xml_field_configs", .list (mapping.groups.map FieldGroup.toJson)),
      ("templates", .list (mapping.templates.map Template.toJson))]

/-- A configuration without the passwords of its mappings. -/
def Configuration.toJson (configuration : Configuration) : Json :=
  .record
    [("projects", configuration.projects.toJson),
      ("issue_types", configuration.issueTypes.toJson),
      ("domains", configuration.domains.toJson),
      ("error_log_name", optionalText configuration.errorLogName),
      ("inbound_mappings", .list (configuration.inboundMappings.map Mapping.toJson)),
      ("outbound_mappings", .list (configuration.outboundMappings.map Mapping.toJson))]

/-- A template with the value that was kept of it. -/
def Snapshot.toJson (snapshot : Snapshot) : Json :=
  .record [("template", snapshot.template.toJson), ("value", .text snapshot.value)]

end IssueSync
