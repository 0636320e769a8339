import IssueSync.Ordered.TextMap
import IssueSync.Text.Blank
import IssueSync.Text.LetterCase

/-! # What fields and templates have in common

Every rule relates a property of the remote record to a field of the local
issue, says what happens to its values, and carries some free-form settings.
-/

namespace IssueSync

/-- What to do with the target record when a field changes. -/
inductive Action where
  | create
  | update
  deriving DecidableEq, Repr

namespace Action

/-- The word for an action. -/
def name : Action → String
  | create => "CREATE"
  | update => "UPDATE"

/-- The action with this name, in any case and with blank characters around
it. -/
def ofName? (name : String) : Option Action :=
  let word := (Text.trimmed name.toList).map Char.toUpper
  if word = "CREATE".toList then some create
  else if word = "UPDATE".toList then some update
  else none

end Action

/-- A yes-or-no setting: the words `true` and `false`, in any case and with
blank characters around them; everything else leaves the default. -/
def readFlag (setting : Option String) (default : Bool) : Bool :=
  match setting.map Text.trim with
  | none => default
  | some word =>
      if Text.sameIgnoringCase word "true" then true
      else if Text.sameIgnoringCase word "false" then false
      else default

/-- The part of a rule that fields and templates share. -/
structure Correspondence where
  /-- Namespace of the remote property. -/
  propertyNamespace : Option String := none
  /-- Local name of the remote property. -/
  propertyName : Option String := none
  /-- Free-form type of the field; `custom` marks a custom field. -/
  fieldType : Option String := none
  /-- Free-form type of the content; `html` marks HTML. -/
  contentType : Option String := none
  /-- Name of the field of the local issue. -/
  mapTo : Option String := none
  action : Option Action := none
  /-- Values of the source with what they become. -/
  valueMapping : Option (TextMap String) := none
  /-- Whether a change raises a notification. -/
  notifyChange : Bool := true
  /-- What a value becomes that the value mapping does not list. -/
  defaultValue : Option String := none
  deriving DecidableEq, Inhabited

namespace Correspondence

/-- Whether the field type is `custom`, in any case. -/
def isCustom (rule : Correspondence) : Bool :=
  rule.fieldType.any fun fieldType => Text.sameIgnoringCase fieldType "custom"

/-- Whether the content type is `html`, in any case. -/
def isHtml (rule : Correspondence) : Bool :=
  rule.contentType.any fun contentType => Text.sameIgnoringCase contentType "html"

/-- What a value of the source becomes: what the value mapping lists for it,
else the default value, else itself. -/
def translate (rule : Correspondence) (value : String) : String :=
  match rule.valueMapping.bind fun mapping => mapping.get? value with
  | some mapped => mapped
  | none => rule.defaultValue.getD value

end Correspondence

end IssueSync
