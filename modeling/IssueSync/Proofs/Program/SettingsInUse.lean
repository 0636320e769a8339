import IssueSync.Program.Run
import IssueSync.Proofs.Program.SettingsFile

/-! # Settings in use

A run with a command on a document ends as the command does on the file that was
given, or else on the document of the settings (`perform_runProgram`). After
`init` the commands without a file end as with the file that `init` was given
(`runProgram_words_of_init`), and with a file a run ends alike under all settings
that are usable (`Outcome.SameResult.of_document`). With settings that are read as
they were written this is how settings are kept and used (`Settings.kept_and_used`).
-/

namespace IssueSync

open Files Files.Directory

/-! ### Outcomes -/

namespace Outcome

/-- The end of a run whose command gave a text or failed. -/
def ofResult : Except Failure String → Outcome
  | .error failure => .failure 1 failure.message
  | .ok text => .success text

/-- The runs end with the same code and the same output. They may complain
differently. -/
def SameResult (first second : Outcome) : Prop :=
  first.code = second.code ∧ first.output = second.output

/-- Equal outcomes have the same result. -/
theorem SameResult.of_eq {first second : Outcome} (equal : first = second) :
    SameResult first second := equal ▸ ⟨rfl, rfl⟩

/-- Nothing of a failure is in the output. -/
theorem SameResult.of_equalOrFail {first second : Except Failure String}
    (alike : EqualOrFail first second) : SameResult (ofResult first) (ofResult second) := by
  rcases alike with rfl | ⟨⟨failure, rfl⟩, ⟨other, rfl⟩⟩
  · exact ⟨rfl, rfl⟩
  · exact ⟨rfl, rfl⟩

end Outcome

/-! ### Command lines -/

/-- A text that does not begin with a hyphen has no bytes that do. -/
theorem Arguments.head?_ofText_ne {text : String} (noHyphen : text.toList.head? ≠ some '-') :
    (SystemText.ofText text).bytes.head? ≠ some hyphen := by
  intro first
  obtain ⟨character, begins, code⟩ := SystemText.exists_head?_of_head?_ofText (by decide) first
  have same : character = '-' := by
    rw [← Char.ofNat_toNat character, code]
    decide
  exact noHyphen (same ▸ begins)

/-- An argument that does not begin with a hyphen is an operand. -/
theorem Arguments.read_of_head?_ne {grammar : Grammar} {argument : SystemText}
    (noHyphen : argument.bytes.head? ≠ some hyphen) : read grammar argument = .operand := by
  rw [read]
  split
  · next first second body bytes =>
      have different : first ≠ hyphen := fun same => noHyphen (by rw [bytes, same]; rfl)
      exact if_pos different
  · rfl

/-- Such an argument alone is taken where an operand may stand. -/
theorem Arguments.parse?_operand {grammar : Grammar} {argument : SystemText}
    (noHyphen : argument.bytes.head? ≠ some hyphen) (nonempty : argument ≠ .ofText "")
    (noCommands : grammar.commands = []) (room : 0 < grammar.operands) :
    parse? grammar false [argument] = some { operands := [argument] } := by
  have notHyphens : argument ≠ .ofText "--" := by
    rintro rfl
    exact noHyphen rfl
  have allowed : ¬ ((argument = .ofText "" ∧ !grammar.operandsMayBeEmpty) ∨
      grammar.operands ≤ ([] : List SystemText).length) := by
    rintro (⟨empty, -⟩ | full)
    · exact nonempty empty
    · exact Nat.not_le.mpr room full
  rw [parse?, if_neg Bool.false_ne_true, noCommands, List.find?_nil]
  dsimp only
  rw [if_neg notHyphens, read_of_head?_ne noHyphen]
  exact if_neg allowed

/-- An option takes the argument behind it, if that can be a value. -/
theorem Arguments.parse?_option {grammar : Grammar} {rule : OptionRule} {argument : SystemText}
    (noCommand : (grammar.commands.find? fun name => argument = .ofText name) = none)
    (notHyphens : argument ≠ .ofText "--") (names : read grammar argument = .option rule none)
    (value : SystemText) (rest : List SystemText) :
    parse? grammar false (argument :: value :: rest) =
      if isValue value then (parse? grammar false rest).bind (addOption? rule value) else none := by
  rw [parse?, if_neg Bool.false_ne_true, noCommand]
  dsimp only
  rw [if_neg notHyphens, names]

/-- The words that ask for a command, without those for a file. -/
def DocumentCommand.words : DocumentCommand → List SystemText
  | validate => ["validate"]
  | projects => ["projects"]
  | configuration key => ["show", "--project", key]

namespace Invocation

/-- Words that are not taken without a file are not taken with one. -/
theorem parse?_words (command : DocumentCommand) {document : SystemText}
    (noHyphen : document.bytes.head? ≠ some Arguments.hyphen)
    (nonempty : document ≠ .ofText "") :
    (parse? command.words = some ⟨none, .document command none⟩ ∧
      parse? (command.words ++ [document]) = some ⟨none, .document command (some document)⟩) ∨
    parse? command.words = none ∧ parse? (command.words ++ [document]) = none := by
  have operand {grammar : Grammar} (noCommands : grammar.commands = [])
      (room : 0 < grammar.operands) :=
    Arguments.parse?_operand noHyphen nonempty noCommands room
  cases command with
  | validate =>
      refine .inl ⟨rfl, ?_⟩
      show parseDocument? none .validate [document] = _
      rw [parseDocument?, operand rfl Nat.zero_lt_one]
      rfl
  | projects =>
      refine .inl ⟨rfl, ?_⟩
      show parseDocument? none .projects [document] = _
      rw [parseDocument?, operand rfl Nat.zero_lt_one]
      rfl
  | configuration key =>
      show (parseShow? none ["--project", key] = _ ∧
          parseShow? none ["--project", key, document] = _) ∨
        parseShow? none ["--project", key] = none ∧
          parseShow? none ["--project", key, document] = none
      rw [parseShow?, parseShow?, Arguments.parse?_option rfl (by decide) rfl,
        Arguments.parse?_option rfl (by decide) rfl, operand rfl Nat.zero_lt_one]
      cases Arguments.isValue key with
      | false => exact .inr ⟨rfl, rfl⟩
      | true =>
          left
          simp [Arguments.parse?, Arguments.addOption?, Arguments.value?, innerSettings]

/-- The words that ask for settings with a document. -/
theorem parse?_init {document : SystemText}
    (noHyphen : document.bytes.head? ≠ some Arguments.hyphen)
    (nonempty : document ≠ .ofText "") :
    parse? ["init", "--document", document] =
      some ⟨none, .init (.ofText defaultSettingsPath) (some document)⟩ := by
  have value : Arguments.isValue document = true := by
    rw [Arguments.isValue, bne_iff_ne.mpr noHyphen, Bool.or_true]
  show parseInit? none ["--document", document] = _
  rw [parseInit?, Arguments.parse?_option rfl (by decide) rfl, if_pos value]
  simp [Arguments.parse?, Arguments.addOption?, Arguments.value?, innerSettings, nonempty,
    List.lookup_cons]

/-- The empty path is not accepted as a document. -/
theorem parse?_init_empty : parse? ["init", "--document", ""] = none := rfl

end Invocation

/-! ### Runs -/

/-- There are no folders to make around the default path. -/
theorem perform_makeFoldersAround_defaultSettingsPath (directory : Directory) :
    directory.perform (makeFoldersAround (.ofText defaultSettingsPath)) = (.ok (), directory) := by
  rfl

section

variable [Libraries] {directory first second : Directory} {words : List SystemText}
  {command : DocumentCommand} {document : String} {path : SystemText} {file : Option SystemText}
  {settings : Settings}

/-- A run ends as the command does on the file given, or else on the document of
the settings. -/
theorem perform_runProgram
    (asks : Invocation.parse? words = some ⟨none, .document command file⟩)
    (inUse : directory.perform (Settings.inEffect none) = (.ok settings, directory))
    (named : settings.documentFor file = .ok path) :
    directory.perform (runProgram words) =
      (.ofResult (command.output path directory), directory) := by
  simp only [runProgram, runProgramLogged, asks, Invocation.run, perform_bind, inUse,
    Request.execute, named, perform_run]
  cases command.output path directory with
  | error failure => rfl
  | ok text => rfl

/-- Words that are not taken are answered without a look at the directory. -/
theorem perform_runProgram_of_none (nothing : Invocation.parse? words = none) :
    directory.perform (runProgram words) =
      (.failure 2 (Libraries.usage words), directory) := by
  simp [runProgram, runProgramLogged, nothing]

/-- With a file a run ends alike whatever the usable settings are. -/
theorem Outcome.SameResult.of_document
    (asks : Invocation.parse? words = some ⟨none, .document command (some path)⟩)
    (same : SameBut first.settingsLocation first second) (firstUsable : first.HasUsableSettings)
    (secondUsable : second.HasUsableSettings) :
    SameResult (first.perform (runProgram words)).1 (second.perform (runProgram words)).1 := by
  obtain ⟨settings, inUse⟩ := Settings.exists_inEffect_none firstUsable
  obtain ⟨otherSettings, otherInUse⟩ := Settings.exists_inEffect_none secondUsable
  rw [perform_runProgram asks inUse rfl, perform_runProgram asks otherInUse rfl]
  exact of_equalOrFail (command.output_of_sameBut same firstUsable secondUsable path)

/-- The empty path is no value of an option. -/
theorem ne_empty_of_init
    (succeeded : (directory.perform (runProgram ["init", "--document", document])).1.code = 0) :
    SystemText.ofText document ≠ .ofText "" := by
  intro empty
  rw [empty, perform_runProgram_of_none Invocation.parse?_init_empty] at succeeded
  cases succeeded

/-- A run of `init` that succeeds writes the settings that it was given. -/
theorem write_of_init {text : String}
    (written : Settings.toText? { document := some (.ofText document) } = some text)
    (noHyphen : document.toList.head? ≠ some '-')
    (inUse : directory.perform (Settings.inEffect none) = (.ok settings, directory))
    (succeeded : (directory.perform (runProgram ["init", "--document", document])).1.code = 0) :
    directory.write (.ofText defaultSettingsPath) text.toUTF8 =
      (.ok (), (directory.perform (runProgram ["init", "--document", document])).2) := by
  have asks := Invocation.parse?_init (Arguments.head?_ofText_ne noHyphen)
    (ne_empty_of_init succeeded)
  have run : directory.perform (runProgram ["init", "--document", document]) =
      match directory.write (.ofText defaultSettingsPath) text.toUTF8 with
      | (.error fault, after) => (.failure 1 (Failure.file fault).message, after)
      | (.ok (), after) => (.success ("Settings written to " ++ defaultSettingsPath), after) := by
    simp only [runProgram, runProgramLogged, asks, Invocation.run, perform_bind, inUse,
      Request.execute, Settings.save, written, perform_makeFoldersAround_defaultSettingsPath,
      perform_write, SystemText.shown_ofText]
    obtain ⟨result, after⟩ := directory.write (.ofText defaultSettingsPath) text.toUTF8
    cases result with
    | error fault => rfl
    | ok done => rfl
  rw [run] at succeeded ⊢
  split at succeeded
  · cases succeeded
  · next wrote => exact wrote

/-- After `init` the commands without a file end as with the file that it was
given, which they do as they did before. -/
theorem runProgram_words_of_init (plain : Toml.Plain document.toList)
    (noHyphen : document.toList.head? ≠ some '-') (usable : directory.HasUsableSettings)
    (succeeded : (directory.perform (runProgram ["init", "--document", document])).1.code = 0)
    (command : DocumentCommand) :
    let after := (directory.perform (runProgram ["init", "--document", document])).2
    let bare := (after.perform (runProgram command.words)).1
    bare.SameResult (after.perform (runProgram (command.words ++ [.ofText document]))).1 ∧
      bare.SameResult (directory.perform (runProgram (command.words ++ [.ofText document]))).1 := by
  intro after
  obtain ⟨settings, inUse⟩ := Settings.exists_inEffect_none usable
  obtain ⟨text, written, reads⟩ := (Settings.isPlain_document plain).exists_toText?
  have wrote : directory.write (.ofText defaultSettingsPath) text.toUTF8 = (.ok (), after) :=
    write_of_init written noHyphen inUse succeeded
  have opened {location : Location}
      (opens : directory.openFile (.ofText defaultSettingsPath) = .ok location) :
      location = directory.settingsLocation :=
    eq_settingsLocation_of_locate (locate_of_locateFile (locateFile_of_openFile opens).1)
  have stored := (read_of_write wrote fun location opens => opened opens ▸ usable.readable).2
  have found := textAt_of_read stored
  have newInUse := Settings.inEffect_none_of_textAt found reads
  have same : SameBut after.settingsLocation after directory := by
    obtain ⟨location, opens, -, changed⟩ := write_eq_ok_iff.mp wrote
    rw [changed, opened opens]
    exact sameBut_setFile (isSome_kindAt?_around_settingsLocation directory) _
  rcases Invocation.parse?_words command (Arguments.head?_ofText_ne noHyphen)
      (ne_empty_of_init succeeded) with
    ⟨asksBare, asks⟩ | ⟨nothingBare, nothing⟩
  · have equal : (after.perform (runProgram command.words)).1 =
        (after.perform (runProgram (command.words ++ [.ofText document]))).1 := by
      rw [perform_runProgram asksBare newInUse rfl, perform_runProgram asks newInUse rfl]
    rw [equal]
    exact ⟨.of_eq rfl, .of_document asks same (.of_textAt found reads) usable⟩
  · simp only [perform_runProgram_of_none nothingBare, perform_runProgram_of_none nothing]
    exact ⟨⟨rfl, rfl⟩, ⟨rfl, rfl⟩⟩

/-- **Settings are kept and used.** Plain settings that are saved at a path that can
be written are in effect when the path is given. After a successful `init` with a
plain path, in a directory whose default settings file was missing or usable, the
commands without a file have the code and the output that they have with that path
as their file, in this directory and in the one before. A command that is given a
file has the same code and output in directories that differ in nothing but such
settings files. -/
theorem Settings.kept_and_used :
    (∀ (settings : Settings) (path : SystemText) (directory : Directory), settings.IsPlain →
      directory.IsWritable (.ofText path) →
        ∃ after, directory.perform (settings.save path) = (.ok (), after) ∧
          after.perform (inEffect (some path)) = (.ok settings, after)) ∧
    (∀ (document : String) (directory : Directory), Toml.Plain document.toList →
      document.toList.head? ≠ some '-' → directory.HasUsableSettings →
      (directory.perform (runProgram ["init", "--document", document])).1.code = 0 →
      ∀ command : DocumentCommand,
        let after := (directory.perform (runProgram ["init", "--document", document])).2
        let bare := (after.perform (runProgram command.words)).1
        bare.SameResult (after.perform (runProgram (command.words ++ [.ofText document]))).1 ∧
          bare.SameResult
            (directory.perform (runProgram (command.words ++ [.ofText document]))).1) ∧
    ∀ (words : List SystemText) (command : DocumentCommand) (path : SystemText)
      (first second : Directory),
      Invocation.parse? words = some ⟨none, .document command (some path)⟩ →
      SameBut first.settingsLocation first second → first.HasUsableSettings →
      second.HasUsableSettings →
        (first.perform (runProgram words)).1.SameResult (second.perform (runProgram words)).1 :=
  ⟨fun _ _ _ plain writable => exists_save_eq plain writable,
    fun _ _ plain noHyphen usable succeeded command =>
      runProgram_words_of_init plain noHyphen usable succeeded command,
    fun _ _ _ _ _ asks same firstUsable secondUsable =>
      .of_document asks same firstUsable secondUsable⟩

end

section

attribute [local instance] Libraries.sizeLimited

/-- A directory with a mapping document and no settings. -/
def sharedDirectory : Directory :=
  .ofFiles [("shared.xml", DocumentCommand.sharedText.toUTF8)]

/-- The text of settings that name another document. -/
def otherText : String := "document = \"other.xml\"\n"

/-- Settings are kept in a folder that is made for them, and used for a document
that is there. -/
theorem Settings.kept_and_used_sharedDirectory :
    (∃ after, sharedDirectory.perform
          (Settings.save ⟨some "shared.xml", some "sync_config=debug"⟩ "nested/settings.toml") =
        (.ok (), after) ∧
      after.perform (inEffect (some "nested/settings.toml")) =
        (.ok ⟨some "shared.xml", some "sync_config=debug"⟩, after)) ∧
    ((sharedDirectory.perform (runProgram ["init", "--document", "shared.xml"])).2.perform
        (runProgram ["validate"])).1.SameResult
      (sharedDirectory.perform (runProgram ["validate", "shared.xml"])).1 ∧
    ((sharedDirectory.setFile sharedDirectory.settingsLocation otherText.toUTF8).perform
        (runProgram ["validate", "shared.xml"])).1.SameResult
      (sharedDirectory.perform (runProgram ["validate", "shared.xml"])).1 := by
  have plain : IsPlain ⟨some "shared.xml", some "sync_config=debug"⟩ := by
    refine ⟨fun path named => ⟨"shared.xml", (Option.some.inj named).symm, by decide⟩, ?_⟩
    intro filter named
    cases named
    decide
  have writable : sharedDirectory.IsWritable (.ofText "nested/settings.toml") :=
    ⟨_, _, rfl, rfl, rfl, rfl⟩
  have missing : sharedDirectory.HasUsableSettings := ⟨rfl, .inl rfl⟩
  have reads : ofText? otherText = some { document := some "other.xml" } := by
    decide +kernel
  have usable : (sharedDirectory.setFile sharedDirectory.settingsLocation
      otherText.toUTF8).HasUsableSettings := .of_textAt (textAt_of_read rfl) reads
  obtain ⟨kept, used, unchanged⟩ := kept_and_used
  exact ⟨kept _ _ _ plain writable,
    (used "shared.xml" _ (by decide) (by decide) missing rfl .validate).2,
    unchanged _ .validate "shared.xml" _ _ rfl
      (sameBut_setFile (isSome_kindAt?_around_settingsLocation sharedDirectory) _) usable missing⟩

end

end IssueSync
