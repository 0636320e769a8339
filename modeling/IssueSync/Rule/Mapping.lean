import IssueSync.Ordered.TextSet
import IssueSync.Rule.Field
import IssueSync.Rule.Template

/-! # Mappings

A mapping holds the rules for one direction of synchronization, with the
connection details of the remote system. The identifiers of its fields are
what the placeholders of its templates may refer to.
-/

namespace IssueSync

/-- The direction of a mapping, seen from the local issue tracker. -/
inductive Direction where
  | inbound
  | outbound
  deriving DecidableEq, Repr, Inhabited

/-- The word for a direction at the beginning of a sentence. -/
def Direction.label : Direction → String
  | .inbound => "Inbound"
  | .outbound => "Outbound"

/-- The rules and connection details for one direction. -/
structure Mapping where
  direction : Direction := .inbound
  /-- Headers sent to the remote system. -/
  headers : TextMap String := ∅
  rdfTypes : TextSet := ∅
  username : Option String := none
  password : Option String := none
  fields : List Field := []
  groups : List FieldGroup := []
  templates : List Template := []
  deriving DecidableEq, Inhabited

namespace Mapping

/-- The fields on their own, then the fields of every group. -/
def allFields (mapping : Mapping) : List Field :=
  mapping.fields ++ mapping.groups.flatMap FieldGroup.fields

/-- The identifiers of all fields, in order and with repetitions. -/
def fieldIds (mapping : Mapping) : List String :=
  mapping.allFields.filterMap (·.id)

/-- The identifiers that placeholders may refer to. -/
def declaredIds (mapping : Mapping) : TextSet :=
  TextSet.ofList mapping.fieldIds

/-- The first field with an identifier, on its own or in a group. -/
def fieldWithId? (mapping : Mapping) (id : String) : Option Field :=
  mapping.allFields.find? fun field => field.id = some id

end Mapping

/-- One more identifier, noted as repeated when it was seen before and is not
noted yet. -/
def noteRepeated (state : List String × List String) (id : String) : List String × List String :=
  let (seen, repeated) := state
  if id ∈ seen then (seen, if id ∈ repeated then repeated else repeated ++ [id])
  else (id :: seen, repeated)

/-- The identifiers that more than one field has, in the order in which they
come up a second time. -/
def Mapping.duplicateIds (mapping : Mapping) : List String :=
  (mapping.fieldIds.foldl noteRepeated ([], [])).2

end IssueSync
