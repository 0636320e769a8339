import IssueSync.Rule.Reading
import IssueSync.Rule.Validation
import IssueSync.Table.ProjectTable

/-! # Loading a document

A document is loaded as a whole or not at all: a table comes out only when no
mapping of any configuration gives cause for complaint. Complaints about inbound
mappings come first.
-/

namespace IssueSync

/-- Why a document was not loaded. -/
inductive LoadError where
  /-- The text is no XML document. -/
  | malformed (reason : String)
  /-- Mappings do not pass validation. -/
  | invalid (message : String)
  deriving DecidableEq, Repr

/-- The error in words. -/
def LoadError.message : LoadError → String
  | .malformed reason => "Failed to parse configuration: " ++ reason
  | .invalid message => "Configuration validation failed: " ++ message

variable [Libraries]

/-- The table of a list of configurations that pass validation. -/
def publish (configurations : List Configuration) : Except LoadError ProjectTable :=
  let found := Findings.about configurations
  if found.inbound = "" ∧ found.outbound = "" then
    .ok (ProjectTable.ofConfigurations configurations)
  else .error (.invalid (found.inbound ++ found.outbound))

/-- The table of the configurations that a text holds. -/
def load (text : String) : Except LoadError ProjectTable :=
  match configurationsIn? text with
  | none => .error (.malformed (Libraries.documentReason text))
  | some configurations => publish configurations

end IssueSync
