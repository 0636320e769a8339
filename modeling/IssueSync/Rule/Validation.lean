import IssueSync.Libraries
import IssueSync.Rule.Configuration
import IssueSync.Rule.Placeholder

/-! # Checking placeholders against fields

Every placeholder of a template names a field of the same mapping. A template
that breaks this gives one complaint, which lists each placeholder at fault as
often as it occurs. So does a template whose placeholders cannot be looked for,
because of its delimiters.
-/

namespace IssueSync

/-- What is wrong with a template. -/
inductive Complaint.Cause where
  /-- Placeholders that name no field. -/
  | unresolved (placeholders : List String)
  /-- Delimiters between which placeholders cannot be found, and why not. -/
  | unmatched (opening closing reason : String)
  deriving DecidableEq, Repr

/-- What is wrong with a template of a mapping. -/
structure Complaint where
  /-- The word for the direction of the mapping. -/
  label : String
  cause : Complaint.Cause
  deriving DecidableEq, Repr

/-- A complaint as a sentence, with the space that parts it from the next. -/
def Complaint.sentence (complaint : Complaint) : String :=
  match complaint.cause with
  | .unresolved placeholders =>
      complaint.label ++ " mapping - following items do not contain field declaration: " ++
        ", ".intercalate placeholders ++ ". "
  | .unmatched opening closing reason =>
      complaint.label ++ " mapping - placeholder delimiters '" ++ opening ++ "' and '" ++ closing ++
        "' cannot be matched: " ++ reason ++ ". "

/-- Several complaints as one message. -/
def complaintMessage (complaints : List Complaint) : String :=
  String.join (complaints.map Complaint.sentence)

/-- The placeholders of a template whose identifiers are not declared. -/
def Template.unresolved (template : Template) (declared : TextSet) : List String :=
  (template.occurrences.filter fun occurrence => occurrence.id ∉ declared).map Occurrence.text

variable [Libraries]

/-- Why the placeholders of a template cannot be found, if they cannot. -/
def Template.refusal? (template : Template) : Option String :=
  Libraries.delimiterReason? template.opening template.closing

/-- What a mapping with these identifiers has to complain of in a template, if
anything. -/
def Template.cause? (template : Template) (declared : TextSet) : Option Complaint.Cause :=
  match template.refusal? with
  | some reason => some (.unmatched template.opening template.closing reason)
  | none =>
      match template.unresolved declared with
      | [] => none
      | placeholders => some (.unresolved placeholders)

namespace Mapping

/-- The complaints about the templates of a mapping, in order. -/
def complaints (mapping : Mapping) (label : String) : List Complaint :=
  (mapping.templates.filterMap fun template => template.cause? mapping.declaredIds).map fun cause =>
    ⟨label, cause⟩

/-- What is wrong with the templates of a mapping in words, if anything. -/
def validate (mapping : Mapping) (label : String) : Option String :=
  let message := complaintMessage (mapping.complaints label)
  if message = "" then none else some message

end Mapping

/-- What was found wrong so far in a list of configurations, in words and apart by
direction. -/
structure Findings where
  inbound : String := ""
  outbound : String := ""
  deriving DecidableEq, Repr

namespace Findings

/-- The findings with a message about a mapping of a direction behind the others. -/
def add (findings : Findings) (direction : Direction) (message : String) : Findings :=
  match direction with
  | .inbound => { findings with inbound := findings.inbound ++ message }
  | .outbound => { findings with outbound := findings.outbound ++ message }

/-- The findings after a mapping of one direction was validated. -/
def check (direction : Direction) (findings : Findings) (mapping : Mapping) : Findings :=
  match mapping.validate direction.label with
  | some message => findings.add direction message
  | none => findings

/-- The findings after the mappings of one direction of a configuration. -/
def visitDirection (configuration : Configuration) (findings : Findings)
    (direction : Direction) : Findings :=
  (configuration.mappings direction).foldl (check direction) findings

/-- The findings after a configuration. -/
def visit (findings : Findings) (configuration : Configuration) : Findings :=
  [Direction.inbound, Direction.outbound].foldl (visitDirection configuration) findings

/-- What is found wrong in one pass through a list of configurations. -/
def about (configurations : List Configuration) : Findings :=
  configurations.foldl visit {}

end Findings

end IssueSync
