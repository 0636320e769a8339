import IssueSync.Proofs.Files.Actions
import IssueSync.Proofs.Program.DocumentCommands
import IssueSync.Proofs.Program.SettingsText

/-! # The settings file

Plain settings that are saved at a path that can be written are the ones in effect
when that path is given (`Settings.exists_save_eq`). At the default path they are
also in effect where no path is given (`Settings.inEffect_none_of_textAt`). Two
directories that differ in nothing but their usable settings files are told apart
by no command: where the outcomes of a command are not the same, both are errors
(`DocumentCommand.output_of_sameBut`).
-/

namespace IssueSync

open Files

namespace Files.Directory

variable {directory folders after : Directory} {path : Path} {content : ByteArray} {text : String}

/-! ### Reading a text -/

/-- Reading leaves a directory as it is. -/
@[simp]
theorem perform_readText :
    directory.perform (readText path) = (directory.textAt path, directory) := by
  refine Prod.ext rfl ?_
  simp only [readText, perform_bind, perform_read]
  split
  · rfl
  · split
    · rfl
    · rfl

/-- The text of a file is what its content decodes to. -/
theorem textAt_eq : directory.textAt path =
    match directory.read path with
    | .error fault => .error fault
    | .ok content =>
        match String.fromUTF8? content with
        | some text => .ok text
        | none => .error .notUtf8 := by
  have texts : directory.textAt path = (directory.perform (readText path)).1 := rfl
  simp only [texts, readText, perform_bind, perform_read]
  cases directory.read path with
  | error fault => rfl
  | ok content =>
      dsimp only
      cases String.fromUTF8? content with
      | none => rfl
      | some found => rfl

/-- The text of a file is its content, which has to be UTF-8. -/
theorem textAt_eq_ok_iff : directory.textAt path = .ok text ↔
    ∃ content, directory.read path = .ok content ∧ String.fromUTF8? content = some text := by
  rw [textAt_eq]
  cases directory.read path with
  | error fault => simp
  | ok content =>
      simp only [Except.ok.injEq, exists_eq_left']
      cases String.fromUTF8? content with
      | none => simp
      | some found => simp

/-- Where there is a text there is something. -/
theorem has_of_textAt (found : directory.textAt path = .ok text) : directory.has path = true := by
  obtain ⟨content, stored, -⟩ := textAt_eq_ok_iff.mp found
  obtain ⟨location, leads, holds, -⟩ := exists_kindAt?_of_read stored
  rw [has, find?, leads]
  dsimp only
  rw [holds]
  rfl

/-- The folders around a path are there or can be made. Then a file at the path can be
opened for writing, takes whatever is written, and can be read. -/
def IsWritable (directory : Directory) (path : Path) : Prop :=
  ∃ folders location, directory.perform (makeFoldersAround path) = (.ok (), folders) ∧
    folders.openFile path = .ok location ∧ folders.conditions.breaksOff? location = none ∧
      folders.conditions.refuses? .read location = none

/-- A file that can be written takes every content and gives it back. -/
theorem IsWritable.exists_write (writable : directory.IsWritable path) (content : ByteArray) :
    ∃ folders after, directory.perform (makeFoldersAround path) = (.ok (), folders) ∧
      folders.write path content = (.ok (), after) ∧ after.read path = .ok content := by
  obtain ⟨folders, location, made, opens, takes, readable⟩ := writable
  have took : folders.conditions.take location content = (.ok (), content) := by
    rw [Conditions.take, takes]
  have written := write_eq_ok_iff.mpr ⟨location, opens, took, rfl⟩
  refine ⟨folders, _, made, written, (read_of_write written fun other otherOpens => ?_).2⟩
  cases opens.symm.trans otherOpens
  exact readable

/-! ### The default settings file -/

/-- Where settings stand by default. -/
def settingsLocation (directory : Directory) : Location :=
  ⟨directory.working.names ++ [.ofText defaultSettingsPath]⟩

/-- The default settings file may be read, and it is missing or holds settings. -/
structure HasUsableSettings (directory : Directory) : Prop where
  readable : directory.conditions.refuses? .read directory.settingsLocation = none
  missing_or_valid : directory.kindAt? directory.settingsLocation = none ∨
    ∃ content text settings, directory.kindAt? directory.settingsLocation = some (.file content) ∧
      String.fromUTF8? content = some text ∧ Settings.ofText? text = some settings

/-- No folder stands where the settings are. -/
theorem HasUsableSettings.noFolder (usable : directory.HasUsableSettings) :
    directory.kindAt? directory.settingsLocation ≠ some .folder := by
  rcases usable.missing_or_valid with missing | ⟨content, text, settings, holds, -, -⟩
  · rw [missing]
    nofun
  · rw [holds]
    nofun

/-- What is read of a usable settings file is no mapping document. -/
theorem HasUsableSettings.load_eq [Libraries] (usable : directory.HasUsableSettings)
    (holds : directory.kindAt? directory.settingsLocation = some (.file content))
    (decoded : String.fromUTF8? content = some text) :
    load text = .error (.malformed (Libraries.documentReason text)) := by
  rcases usable.missing_or_valid with missing | ⟨stored, held, settings, standing, reads, found⟩
  · rw [missing] at holds
    cases holds
  · cases holds.symm.trans standing
    cases decoded.symm.trans reads
    exact Settings.load_of_ofText? found

/-- The default path leads to the default location, if it leads anywhere. -/
theorem eq_settingsLocation_of_locate {location : Location}
    (leads : directory.locate (.ofText defaultSettingsPath) = .ok location) :
    location = directory.settingsLocation := by
  have path : Path.ofText defaultSettingsPath = ⟨.working, [.ofText defaultSettingsPath]⟩ := by
    decide
  rw [eq_location_of_locate leads, path]
  rfl

/-- Settings that are read at the default path are usable. -/
theorem HasUsableSettings.of_textAt {settings : Settings}
    (found : directory.textAt (.ofText defaultSettingsPath) = .ok text)
    (reads : Settings.ofText? text = some settings) : directory.HasUsableSettings := by
  obtain ⟨content, stored, decoded⟩ := textAt_eq_ok_iff.mp found
  obtain ⟨location, leads, holds, readable⟩ := exists_kindAt?_of_read stored
  cases eq_settingsLocation_of_locate leads
  exact ⟨readable, .inr ⟨content, text, settings, holds, decoded, reads⟩⟩

/-- Around the default location there are the working directory and what it is in. -/
theorem isSome_kindAt?_around_settingsLocation (directory : Directory) (other : Location)
    (below : directory.settingsLocation.isBelow other = true) :
    (directory.kindAt? other).isSome = true := by
  simp only [Location.isBelow, settingsLocation, Bool.and_eq_true, List.isPrefixOf_iff_prefix,
    decide_eq_true_eq, List.length_append, List.length_singleton] at below
  obtain ⟨leading, shorter⟩ := below
  have inWorking : other.names <+: directory.working.names :=
    List.prefix_of_prefix_length_le leading (List.prefix_append _ _) (Nat.le_of_lt_succ shorter)
  have stands : directory.standing.contains other = true ∨
      directory.standing.any (fun folder => folder.isBelow other) = true := by
    rcases Nat.lt_or_ge other.names.length directory.working.names.length with less | more
    · right
      refine List.any_eq_true.mpr ⟨directory.working, List.mem_cons_self, ?_⟩
      simp [Location.isBelow, List.isPrefixOf_iff_prefix, inWorking, less]
    · left
      have same : other = directory.working := by
        cases other
        exact congrArg Location.mk (inWorking.eq_of_length_le more)
      rw [same]
      exact List.contains_iff_mem.mpr List.mem_cons_self
  rw [kindAt?]
  split
  · rfl
  · rcases stands with here | around
    · rw [here]
      simp
    · rw [around]
      simp

end Files.Directory

open Files.Directory

namespace Settings

/-! ### Writing settings -/

section

variable {directory folders after : Directory} {settings : Settings} {path : SystemText}
  {text : String} {fault : Fault}

/-- Settings are saved when their text is written with the folders around it. -/
theorem save_of_write (written : settings.toText? = some text)
    (made : directory.perform (makeFoldersAround (.ofText path)) = (.ok (), folders))
    (wrote : folders.write (.ofText path) text.toUTF8 = (.ok (), after)) :
    directory.perform (save settings path) = (.ok (), after) := by
  simp only [save, written, perform_bind, made, perform_write, wrote, perform_pure]

end

/-! ### Reading settings -/

variable [Libraries] {directory folders after : Directory} {settings : Settings}
  {path : SystemText} {text : String}

/-- Settings are loaded from a text that holds settings. -/
theorem load_of_textAt (found : directory.textAt (.ofText path) = .ok text)
    (reads : ofText? text = some settings) :
    directory.perform (load path) = (.ok settings, directory) := by
  simp [load, has_of_textAt found, found, reads]

/-- Settings at the default path are in effect when no path is given. -/
theorem inEffect_none_of_textAt (found : directory.textAt (.ofText defaultSettingsPath) = .ok text)
    (reads : ofText? text = some settings) :
    directory.perform (inEffect none) = (.ok settings, directory) := by
  simp [inEffect, has_of_textAt found, load_of_textAt found reads]

/-- Without a file there the standard settings are in effect. -/
theorem inEffect_none_of_missing (missing : directory.has (.ofText defaultSettingsPath) = false) :
    directory.perform (inEffect none) = (.ok {}, directory) := by
  simp [inEffect, missing]

/-- Usable settings are used. -/
theorem exists_inEffect_none (usable : directory.HasUsableSettings) :
    ∃ settings, directory.perform (inEffect none) = (.ok settings, directory) := by
  cases leads : directory.locate (.ofText defaultSettingsPath) with
  | error fault =>
      refine ⟨{}, inEffect_none_of_missing ?_⟩
      rw [has, find?, leads]
      rfl
  | ok location =>
      cases eq_settingsLocation_of_locate leads
      rcases usable.missing_or_valid with missing | ⟨content, text, settings, holds, decoded, reads⟩
      · refine ⟨{}, inEffect_none_of_missing ?_⟩
        rw [has, find?, leads]
        dsimp only
        rw [missing]
        rfl
      · have stored : directory.read (.ofText defaultSettingsPath) = .ok content := by
          rw [Directory.read, leads]
          dsimp only
          rw [holds]
          exact Conditions.grant_eq_ok_iff.mpr ⟨usable.readable, rfl⟩
        have found := textAt_eq_ok_iff.mpr ⟨content, stored, decoded⟩
        exact ⟨settings, inEffect_none_of_textAt found reads⟩

/-- **Settings survive being written.** Plain settings can be saved at every path
that can be written, and are in effect when that path is given. -/
theorem exists_save_eq (plain : settings.IsPlain)
    (writable : directory.IsWritable (.ofText path)) :
    ∃ after, directory.perform (save settings path) = (.ok (), after) ∧
      after.perform (inEffect (some path)) = (.ok settings, after) := by
  obtain ⟨text, written, reads⟩ := plain.exists_toText?
  obtain ⟨folders, after, made, wrote, stored⟩ := writable.exists_write text.toUTF8
  exact ⟨after, save_of_write written made wrote, load_of_textAt (textAt_of_read stored) reads⟩

end Settings

/-! ### Commands and the settings file -/

variable [Libraries]

/-- A command leaves a directory as it is. -/
@[simp]
theorem Files.Directory.perform_run (directory : Directory) (command : DocumentCommand)
    (path : SystemText) :
    directory.perform (command.run path) = (command.output path directory, directory) := by
  refine Prod.ext rfl ?_
  simp only [DocumentCommand.run, perform_bind, perform_readText]
  split
  · rfl
  · rfl

/-- A command that says different things in two directories that differ in nothing
but their usable settings files fails in both. -/
theorem DocumentCommand.output_of_sameBut {first second : Directory}
    (same : SameBut first.settingsLocation first second) (firstUsable : first.HasUsableSettings)
    (secondUsable : second.HasUsableSettings) (command : DocumentCommand) (path : SystemText) :
    EqualOrFail (command.output path first) (command.output path second) := by
  have fails {directory : Directory} (usable : directory.HasUsableSettings)
      (stands : ∀ content, directory.read (.ofText path) = .ok content →
        directory.kindAt? directory.settingsLocation = some (.file content)) :
      ∃ failure, command.output path directory = .error failure := by
    cases found : directory.textAt (.ofText path) with
    | error fault => exact ⟨_, command.output_eq_of_fault found⟩
    | ok text =>
        obtain ⟨content, stored, decoded⟩ := textAt_eq_ok_iff.mp found
        refine ⟨.document (.malformed (Libraries.documentReason text)), ?_⟩
        rw [command.output_eq found, reportText, usable.load_eq (stands content stored) decoded]
  have location : first.settingsLocation = second.settingsLocation := by
    rw [settingsLocation, settingsLocation, same.working]
  rcases same.read firstUsable.noFolder (location ▸ secondUsable.noFolder) (.ofText path) with
    equal | ⟨firstStands, secondStands⟩
  · left
    have texts : first.textAt (.ofText path) = second.textAt (.ofText path) := by
      rw [textAt_eq, textAt_eq, equal]
    cases found : second.textAt (.ofText path) with
    | error fault =>
        rw [command.output_eq_of_fault found, command.output_eq_of_fault (texts.trans found)]
    | ok text => rw [command.output_eq found, command.output_eq (texts.trans found)]
  · exact .inr ⟨fails firstUsable firstStands, fails secondUsable (location ▸ secondStands)⟩

end IssueSync
