import IssueSync.Files.Directory
import IssueSync.Table.Loading

/-! # Why a command fails -/

namespace IssueSync

/-- The name of the settings file where none is given. -/
def defaultSettingsPath : String := "sync-config.toml"

/-- Why a command failed. -/
inductive Failure where
  /-- Nothing stands where the settings should. -/
  | settingsMissing (path : SystemText)
  /-- No document was given, and the settings name none. -/
  | noDocument
  /-- The settings cannot be written down: the path in them is no text. -/
  | settingsUnwritable
  /-- A file could not be used. -/
  | file (fault : Files.Fault)
  /-- The settings file does not hold settings. -/
  | settingsMalformed (reason : String)
  /-- The mapping document was not loaded. -/
  | document (error : LoadError)
  /-- No configuration has this project. -/
  | projectUnknown (key : String)
  deriving DecidableEq, Repr

/-- The failure in words. -/
def Failure.message : Failure → String
  | settingsMissing path => "Configuration error: Settings file not found: " ++ path.quoted
  | noDocument =>
      "Configuration error: No mapping document given and none configured in " ++
        defaultSettingsPath
  | settingsUnwritable =>
      "Configuration error: Failed to serialize settings: path contains invalid UTF-8 characters"
  | file fault => "Failed to load file: " ++ fault.message
  | settingsMalformed reason => "Failed to parse TOML settings file: " ++ reason
  | document error => error.message
  | projectUnknown key => "No configuration found for project '" ++ key ++ "'"

end IssueSync
