import IssueSync.Rule.Correspondence

/-! # Templates and their snapshots

A template builds one text out of the values of several fields. Its text holds
placeholders, each a field identifier between two delimiters.
-/

namespace IssueSync

/-- The delimiter of placeholders where none is configured. -/
def defaultDelimiter : String := "%"

/-- A rule that gathers several field values into one text. -/
structure Template extends Correspondence where
  /-- The markup inside the template element. -/
  text : String := ""
  /-- What stands before the identifier in a placeholder. -/
  opening : String := defaultDelimiter
  /-- What stands after the identifier in a placeholder. -/
  closing : String := defaultDelimiter
  /-- Whether to store the rendered value even when the synchronization fails. -/
  alwaysSave : Option String := none
  deriving DecidableEq, Inhabited

namespace Template

/-- The placeholder that refers to a field. -/
def placeholder (template : Template) (id : String) : String :=
  template.opening ++ id ++ template.closing

/-- Whether the rendered value is stored in any case. -/
def savesAlways (template : Template) : Bool :=
  readFlag template.alwaysSave false

end Template

/-- The value last rendered from a template, kept to see changes. -/
structure Snapshot where
  template : Template
  value : String
  deriving DecidableEq, Inhabited

namespace Snapshot

/-- Whether a value is another one than the one that was kept. -/
def differsFrom (snapshot : Snapshot) (candidate : String) : Bool :=
  snapshot.value != candidate

/-- Whether the value is stored even after a failed synchronization. -/
def persistsOnError (snapshot : Snapshot) : Bool :=
  snapshot.template.savesAlways

/-- The snapshot after a new value was rendered. -/
def update (snapshot : Snapshot) (candidate : String) : Snapshot :=
  if snapshot.differsFrom candidate then { snapshot with value := candidate } else snapshot

end Snapshot

end IssueSync
