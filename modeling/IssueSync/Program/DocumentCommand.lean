import IssueSync.Files.Access
import IssueSync.Json.Rules
import IssueSync.Program.Failure
import IssueSync.Table.Loading

/-! # Commands on a mapping document

Each command loads the document and turns the table into a text.
-/

namespace IssueSync

open Files

/-- What to do with a mapping document. -/
inductive DocumentCommand where
  /-- Tell that the document is valid, and what it publishes. -/
  | validate
  /-- List the project keys with the numbers of their mappings. -/
  | projects
  /-- Give the configuration of a project as JSON. -/
  | configuration (key : String)
  deriving DecidableEq, Repr

/-- The line of a project in the list of projects. -/
def projectLine (key : String) (configuration : Configuration) : String :=
  key ++ "\tinbound=" ++ toString configuration.inboundMappings.length ++
    "\toutbound=" ++ toString configuration.outboundMappings.length ++ "\n"

namespace DocumentCommand

/-- What a command says about a table that was loaded from a path. -/
def report (path : SystemText) (table : ProjectTable) : DocumentCommand → Except Failure String
  | validate => .ok <|
      path.shown ++ ": valid (" ++ toString table.configurations.length ++ " configuration(s), " ++
        toString table.size ++ " project(s))"
  | projects => .ok <| String.join <| table.keys.map fun key =>
      ((table.get? key).map (projectLine key)).getD ""
  | configuration key =>
      match table.get? key with
      | some found => .ok found.toJson.pretty
      | none => .error (.projectUnknown key)

variable [Libraries]

/-- What a command says about the document in a text that was read from a path. -/
def reportText (path : SystemText) (text : String) (command : DocumentCommand) :
    Except Failure String :=
  match load text with
  | .ok table => command.report path table
  | .error error => .error (.document error)

variable {m : Type → Type} [Monad m] [FileAccess m]

/-- Run a command on the document at a path. -/
def run (command : DocumentCommand) (path : SystemText) : m (Except Failure String) := do
  match ← readText (.ofText path) with
  | .error fault => return .error (.file fault)
  | .ok text => return command.reportText path text

end DocumentCommand

end IssueSync
