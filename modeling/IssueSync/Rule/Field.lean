import IssueSync.Rule.Correspondence

/-! # Fields and groups of fields -/

namespace IssueSync

/-- The correspondence of one value between the local issue and the remote
record. -/
structure Field extends Correspondence where
  /-- The identifier that template placeholders refer to. -/
  id : Option String := none
  /-- Where the value stands in the XML payload of the remote record. -/
  xpath : Option String := none
  /-- Keep markup tags in the value. -/
  keepTags : Bool := false
  /-- Escape the value for HTML before it is written. -/
  encodeHtml : Bool := false
  toDateFormat : Option String := none
  fromDateFormat : Option String := none
  deriving DecidableEq, Inhabited

/-- Fields whose values stand inside the XML content of another field. -/
structure FieldGroup where
  propertyNamespace : Option String := none
  propertyName : Option String := none
  fields : List Field := []
  deriving DecidableEq, Inhabited

end IssueSync
