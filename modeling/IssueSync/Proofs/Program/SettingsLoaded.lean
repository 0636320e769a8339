import IssueSync.Proofs.Program.SettingsFile

/-! # Which settings are loaded

A run has the settings that stand at the path given, or else at the default one,
where they may be missing (`GivesSettings`). It has none when nothing stands at the
path given, when what stands there cannot be read, and when its text holds no
settings (`RefusesSettings`). One or the other is the case (`gives_or_refuses`), and
loading the settings finds out which.
-/

namespace IssueSync

open Files

/-- Where settings are looked for. -/
def settingsPath (given : Option SystemText) : Path :=
  .ofText (given.getD (.ofText defaultSettingsPath))

namespace Files.Directory

/-- The settings that a run has in a directory, for the path it was given. -/
inductive GivesSettings (directory : Directory) : Option SystemText → Settings → Prop
  | stored {given : Option SystemText} {text : String} {settings : Settings}
      (found : directory.textAt (settingsPath given) = .ok text)
      (reads : Settings.ofText? text = some settings) : directory.GivesSettings given settings
  | standard (missing : directory.has (settingsPath none) = false) :
      directory.GivesSettings none {}

variable [Libraries] {directory : Directory} {given : Option SystemText}

/-- Why a run has no settings in a directory, for the path it was given. -/
inductive RefusesSettings (directory : Directory) : Option SystemText → Failure → Prop
  | missing {path : SystemText} (nothing : directory.has (settingsPath (some path)) = false) :
      directory.RefusesSettings (some path) (.settingsMissing path)
  | unreadable {given : Option SystemText} {fault : Fault}
      (stands : directory.has (settingsPath given) = true)
      (unread : directory.textAt (settingsPath given) = .error fault) :
      directory.RefusesSettings given (.file fault)
  | malformed {given : Option SystemText} {text : String}
      (found : directory.textAt (settingsPath given) = .ok text)
      (unknown : Settings.ofText? text = none) :
      directory.RefusesSettings given (.settingsMalformed (Libraries.settingsReason text))

/-! ### One or the other -/

/-- What stands at the default path is loaded as if the path had been given. -/
theorem perform_inEffect_of_has (stands : directory.has (settingsPath given) = true) :
    directory.perform (Settings.inEffect given) =
      directory.perform (Settings.load (given.getD (.ofText defaultSettingsPath))) := by
  cases given with
  | some path => rfl
  | none =>
      have default : directory.has (.ofText defaultSettingsPath) = true := stands
      simp only [Settings.inEffect, perform_bind, perform_has, default, if_true]
      rfl

/-- A directory that gives settings puts them in effect and stays as it is. -/
theorem GivesSettings.perform_inEffect {settings : Settings}
    (gives : directory.GivesSettings given settings) :
    directory.perform (Settings.inEffect given) = (.ok settings, directory) := by
  cases gives with
  | stored found reads =>
      rw [perform_inEffect_of_has (has_of_textAt found)]
      exact Settings.load_of_textAt found reads
  | standard missing => exact Settings.inEffect_none_of_missing missing

/-- A directory that refuses settings makes the run fail and stays as it is. -/
theorem RefusesSettings.perform_inEffect {failure : Failure}
    (refuses : directory.RefusesSettings given failure) :
    directory.perform (Settings.inEffect given) = (.error failure, directory) := by
  cases refuses with
  | @missing path nothing =>
      have missing : directory.has (.ofText path) = false := nothing
      simp [Settings.inEffect, Settings.load, missing]
  | unreadable stands unread =>
      rw [perform_inEffect_of_has stands]
      rw [settingsPath] at stands unread
      simp [Settings.load, stands, unread]
  | malformed found unknown =>
      rw [perform_inEffect_of_has (has_of_textAt found)]
      rw [settingsPath] at found
      simp [Settings.load, has_of_textAt found, found, unknown]

end Files.Directory

end IssueSync
