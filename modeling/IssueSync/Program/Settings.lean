import IssueSync.Files.Access
import IssueSync.Program.Failure
import IssueSync.Toml.Document

/-! # Settings

The settings name the mapping document to use where a command is given none,
and a filter for log output. They stand in a file of their own, which may be
missing unless its path was given.
-/

namespace IssueSync

open Files

/-- The log filter where none is set. -/
def standardLogFilter : String := "warn"

/-- The settings of the program. -/
structure Settings where
  /-- The mapping document of commands that are given none. -/
  document : Option SystemText := none
  /-- The filter for log output. -/
  logFilter : Option String := none
  deriving DecidableEq, Repr, Inhabited

namespace Settings

/-- The text that the entries of a settings file hold under a key, if any. An
entry of another kind makes the file malformed. -/
def textEntry? (entries : Toml.Entries) (key : String) : Option (Option String) :=
  match entries.lookup key with
  | none => some none
  | some (.value (.text content)) => some (some content)
  | some _ => none

/-- The settings that a text holds. Entries with other keys are passed over. -/
def ofText? (text : String) : Option Settings := do
  let entries ← Toml.parse? text
  let document ← textEntry? entries "document"
  let logFilter ← textEntry? entries "log_filter"
  return ⟨document.map .ofText, logFilter⟩

/-- The line of a setting, if it is set. -/
def line (key : String) : Option String → String
  | none => ""
  | some value => key ++ " = " ++ String.ofList (Toml.quote value.toList) ++ "\n"

/-- The lines of the settings, unless the path in them is no text. -/
def toText? (settings : Settings) : Option String := do
  let document ← settings.document.mapM SystemText.text?
  return line "document" document ++ line "log_filter" settings.logFilter

/-- The filter for log output, which is the standard one where none is set. -/
def effectiveLogFilter (settings : Settings) : String :=
  settings.logFilter.getD standardLogFilter

/-- The mapping document of a command: the one it was given, else the one of
the settings. -/
def documentFor (settings : Settings) (given : Option SystemText) : Except Failure SystemText :=
  match given <|> settings.document with
  | some path => .ok path
  | none => .error .noDocument

variable {m : Type → Type} [Monad m] [FileAccess m]

/-- Write the settings to the file at a path, in folders that are made as far
as they are missing. Nothing is made when the settings cannot be written down. -/
def save (settings : Settings) (path : SystemText) : m (Except Failure Unit) := do
  match settings.toText? with
  | none => return .error .settingsUnwritable
  | some text =>
      match ← makeFoldersAround (.ofText path) with
      | .error fault => return .error (.file fault)
      | .ok () =>
          match ← FileAccess.write (.ofText path) text with
          | .error fault => return .error (.file fault)
          | .ok () => return .ok ()

variable [Libraries]

/-- The settings in the file at a path. -/
def load (path : SystemText) : m (Except Failure Settings) := do
  if ← FileAccess.has (.ofText path) then
    match ← readText (.ofText path) with
    | .error fault => return .error (.file fault)
    | .ok text =>
        match ofText? text with
        | some settings => return .ok settings
        | none => return .error (.settingsMalformed (Libraries.settingsReason text))
  else return .error (.settingsMissing path)

/-- The settings at the path given, or else at the default one, where they may
be missing. -/
def inEffect (path : Option SystemText) : m (Except Failure Settings) := do
  match path with
  | some given => load given
  | none =>
      if ← FileAccess.has (.ofText defaultSettingsPath) then load defaultSettingsPath
      else return .ok {}

end Settings

end IssueSync
