import IssueSync.Proofs.Loading.Outcome
import IssueSync.Proofs.Secrecy.JsonText
import IssueSync.Proofs.Program.DocumentCommands

/-! # Passwords and outputs

Leaving the passwords out of a list of configurations before it is published is
the same as leaving them out of the table that comes out
(`publish_map_withoutPasswords`), and a command says the same about a table with
and without its passwords (`DocumentCommand.report_withoutPasswords`). So what is
shown of a document is a function of its configurations without their passwords,
and two documents that differ in nothing but passwords have the same outputs
(`outputs_eq_of_withoutPasswords_eq`).
-/

namespace IssueSync

/-! ### Maps with changed values -/

namespace TextMap

variable {Value Changed : Type} (change : Value → Changed)

/-- An entry with its value changed. -/
def changeEntry (entry : String × Value) : String × Changed :=
  (entry.1, change entry.2)

/-- Changing values leaves the keys. -/
theorem map_fst_map_changeEntry (entries : List (String × Value)) :
    (entries.map (changeEntry change)).map Prod.fst = entries.map Prod.fst := by
  rw [List.map_map]
  rfl

/-- The map with the same keys and changed values. -/
def mapValues (map : TextMap Value) : TextMap Changed :=
  ⟨map.entries.map (changeEntry change),
    map_fst_map_changeEntry change map.entries ▸ map.increasing⟩

@[simp]
theorem keys_mapValues (map : TextMap Value) : (map.mapValues change).keys = map.keys :=
  map_fst_map_changeEntry change map.entries

@[simp]
theorem size_mapValues (map : TextMap Value) : (map.mapValues change).size = map.size :=
  List.length_map _

/-- The value of a key is the changed one. -/
theorem get?_mapValues (map : TextMap Value) (key : String) :
    (map.mapValues change).get? key = (map.get? key).map change := by
  have changed : ∀ entries : List (String × Value),
      (entries.map (changeEntry change)).lookup key = (entries.lookup key).map change := by
    intro entries
    induction entries with
    | nil => rfl
    | cons entry rest ih =>
        rw [List.map_cons, changeEntry, lookup_cons_if, ih, lookup_cons_if]
        split
        · rfl
        · rfl
  exact changed map.entries

/-- Changing values and putting an entry in its place can be done in either order. -/
theorem map_place (key : String) (value : Value) (entries : List (String × Value)) :
    (place key value entries).map (changeEntry change) =
      place key (change value) (entries.map (changeEntry change)) := by
  induction entries with
  | nil => rfl
  | cons first rest ih =>
      simp only [place, List.map_cons, changeEntry]
      split
      · rfl
      · split
        · rfl
        · exact congrArg (_ :: ·) ih

/-- Changing values and inserting can be done in either order. -/
theorem mapValues_insert (map : TextMap Value) (key : String) (value : Value) :
    (map.insert key value).mapValues change = (map.mapValues change).insert key (change value) := by
  rw [mapValues, insert, TextMap.mk.injEq]
  exact map_place change key value map.entries

end TextMap

/-! ### Tables -/

/-- The mappings of a direction lose their passwords. -/
theorem Configuration.mappings_withoutPasswords (configuration : Configuration)
    (direction : Direction) :
    configuration.withoutPasswords.mappings direction =
      (configuration.mappings direction).map Mapping.withoutPassword := by
  cases direction <;> rfl

/-- A configuration with its position, without passwords. -/
def Placed.withoutPasswords (placed : Placed) : Placed :=
  { placed with configuration := placed.configuration.withoutPasswords }

namespace ProjectTable

/-- The table with the passwords of all its configurations left out. -/
def withoutPasswords (table : ProjectTable) : ProjectTable where
  entries := table.entries.mapValues Placed.withoutPasswords
  configurations := table.configurations.map Configuration.withoutPasswords

@[simp]
theorem keys_withoutPasswords (table : ProjectTable) : table.withoutPasswords.keys = table.keys :=
  TextMap.keys_mapValues _ table.entries

@[simp]
theorem size_withoutPasswords (table : ProjectTable) : table.withoutPasswords.size = table.size :=
  TextMap.size_mapValues _ table.entries

/-- The configuration in effect for a project is the same but for its passwords. -/
theorem get?_withoutPasswords (table : ProjectTable) (key : String) :
    table.withoutPasswords.get? key = (table.get? key).map Configuration.withoutPasswords := by
  rw [get?, get?, withoutPasswords, TextMap.get?_mapValues, Option.map_map, Option.map_map]
  rfl

/-- Taking passwords away leaves the positions. -/
theorem position?_withoutPasswords (table : ProjectTable) (key : String) :
    table.withoutPasswords.position? key = table.position? key := by
  rw [position?, position?, withoutPasswords, TextMap.get?_mapValues, Option.map_map]
  rfl

/-- Keys are claimed for a configuration whatever its passwords are. -/
theorem mapValues_claim (entries : TextMap Placed) (placed : Placed) :
    (claim entries placed).mapValues Placed.withoutPasswords =
      claim (entries.mapValues Placed.withoutPasswords) placed.withoutPasswords := by
  have projects : placed.withoutPasswords.configuration.projects =
      placed.configuration.projects := rfl
  rw [claim, claim, projects]
  induction placed.configuration.projects.members generalizing entries with
  | nil => rfl
  | cons key rest ih => rw [List.foldl_cons, List.foldl_cons, ih, TextMap.mapValues_insert]

/-- Which configuration claims a project does not depend on passwords. -/
theorem mapValues_foldl_claim (placed : List Placed) (entries : TextMap Placed) :
    (placed.foldl claim entries).mapValues Placed.withoutPasswords =
      (placed.map Placed.withoutPasswords).foldl claim
        (entries.mapValues Placed.withoutPasswords) := by
  induction placed generalizing entries with
  | nil => rfl
  | cons first rest ih => rw [List.foldl_cons, ih, mapValues_claim, List.map_cons, List.foldl_cons]

/-- A table comes from its configurations claiming their projects in order. -/
theorem entries_ofConfigurations (configurations : List Configuration) :
    (ofConfigurations configurations).entries = (placedFrom 0 configurations).foldl claim ∅ :=
  entries_append [] configurations

/-- Positions do not depend on passwords. -/
theorem placedFrom_map_withoutPasswords (configurations : List Configuration) :
    placedFrom 0 (configurations.map Configuration.withoutPasswords) =
      (placedFrom 0 configurations).map Placed.withoutPasswords := by
  rw [placedFrom, placedFrom, List.zipIdx_map, List.map_map, List.map_map]
  rfl

/-- A table of configurations without passwords is the table without passwords. -/
theorem ofConfigurations_map_withoutPasswords (configurations : List Configuration) :
    ofConfigurations (configurations.map Configuration.withoutPasswords) =
      (ofConfigurations configurations).withoutPasswords := by
  have entries : (ofConfigurations (configurations.map Configuration.withoutPasswords)).entries =
      (ofConfigurations configurations).withoutPasswords.entries := by
    rw [withoutPasswords, entries_ofConfigurations, entries_ofConfigurations,
      placedFrom_map_withoutPasswords, mapValues_foldl_claim]
    rfl
  exact congrArg (ProjectTable.mk · (configurations.map Configuration.withoutPasswords)) entries

end ProjectTable

/-! ### Outputs -/

/-- The line of a project only counts the mappings. -/
theorem projectLine_comp_withoutPasswords (key : String) :
    projectLine key ∘ Configuration.withoutPasswords = projectLine key := by
  funext configuration
  simp only [Function.comp_apply, projectLine, Configuration.withoutPasswords, List.length_map]

/-- Leaving out passwords twice is leaving them out once. -/
theorem Configuration.withoutPasswords_withoutPasswords (configuration : Configuration) :
    configuration.withoutPasswords.withoutPasswords = configuration.withoutPasswords := by
  simp only [withoutPasswords, List.map_map]
  rfl

/-- A command says the same about a table without its passwords. -/
theorem DocumentCommand.report_withoutPasswords (path : SystemText) (table : ProjectTable)
    (command : DocumentCommand) :
    command.report path table.withoutPasswords = command.report path table := by
  cases command with
  | validate =>
      have count : table.withoutPasswords.configurations.length = table.configurations.length :=
        List.length_map _
      rw [report, report, count, ProjectTable.size_withoutPasswords]
  | projects =>
      simp only [report, ProjectTable.keys_withoutPasswords, ProjectTable.get?_withoutPasswords,
        Option.map_map, projectLine_comp_withoutPasswords]
  | configuration key =>
      rw [report, report, ProjectTable.get?_withoutPasswords]
      cases table.get? key with
      | none => rfl
      | some found =>
          have shown : found.withoutPasswords.toJson = found.toJson :=
            Configuration.toJson_inj.mpr found.withoutPasswords_withoutPasswords
          exact congrArg (fun json : Json => Except.ok json.pretty) shown

/-- Two outcomes that are equal without passwords are the same error, or two
tables with the same keys at the same positions. -/
theorem outcomes_of_withoutPasswords_eq {first second : Except LoadError ProjectTable}
    (equal : first.map ProjectTable.withoutPasswords =
      second.map ProjectTable.withoutPasswords) :
    (∃ error, first = .error error ∧ second = .error error) ∨
      ∃ firstTable secondTable, first = .ok firstTable ∧ second = .ok secondTable ∧
        firstTable.keys = secondTable.keys ∧
        ∀ key, firstTable.position? key = secondTable.position? key := by
  cases first with
  | error error =>
      cases second with
      | error other =>
          cases equal
          exact .inl ⟨error, rfl, rfl⟩
      | ok other => cases equal
  | ok table =>
      cases second with
      | error other => cases equal
      | ok other =>
          have tables := Except.ok.inj equal
          refine .inr ⟨table, other, rfl, rfl, ?_, fun key => ?_⟩
          · rw [← table.keys_withoutPasswords, tables, other.keys_withoutPasswords]
          · rw [← table.position?_withoutPasswords, tables, other.position?_withoutPasswords]

/-! ### Complaints -/

section

variable [Libraries]

/-- Complaints are not about passwords. -/
theorem complaintsAbout_map_withoutPasswords (direction : Direction)
    (configurations : List Configuration) :
    complaintsAbout direction (configurations.map Configuration.withoutPasswords) =
      complaintsAbout direction configurations := by
  simp only [complaintsAbout, List.flatMap_map, Configuration.mappings_withoutPasswords]
  rfl

/-- No complaint depends on a password. -/
theorem allComplaints_map_withoutPasswords (configurations : List Configuration) :
    allComplaints (configurations.map Configuration.withoutPasswords) =
      allComplaints configurations := by
  rw [allComplaints, allComplaints, complaintsAbout_map_withoutPasswords,
    complaintsAbout_map_withoutPasswords]

/-- Passwords have no part in whether a table is published. -/
theorem publish_map_withoutPasswords (configurations : List Configuration) :
    publish (configurations.map Configuration.withoutPasswords) =
      (publish configurations).map ProjectTable.withoutPasswords := by
  rw [publish_eq, publish_eq, allComplaints_map_withoutPasswords,
    ProjectTable.ofConfigurations_map_withoutPasswords]
  split
  · rfl
  · rfl

/-- What a command says about the document in a text depends on the
configurations without their passwords. -/
theorem DocumentCommand.reportText_eq {text : String} {configurations : List Configuration}
    (read : configurationsIn? text = some configurations) (path : SystemText)
    (command : DocumentCommand) :
    command.reportText path text =
      match publish (configurations.map Configuration.withoutPasswords) with
      | .ok table => command.report path table
      | .error error => .error (.document error) := by
  rw [reportText, load_of_configurations read, publish_map_withoutPasswords]
  cases publish configurations with
  | error error => rfl
  | ok table => exact (command.report_withoutPasswords path table).symm

/-! ### Two documents -/

/-- **Passwords never reach an output.** Let two texts hold configurations that
are equal except for the passwords of their mappings. Then both are refused with
the same error, or both are loaded and the tables have the same keys, which lead
to the configurations at the same positions. Every command says the same about
both, and so it does when it is run on files with these texts. -/
theorem outputs_eq_of_withoutPasswords_eq {first second : String}
    {firstConfigurations secondConfigurations : List Configuration}
    (firstRead : configurationsIn? first = some firstConfigurations)
    (secondRead : configurationsIn? second = some secondConfigurations)
    (equal : firstConfigurations.map Configuration.withoutPasswords =
      secondConfigurations.map Configuration.withoutPasswords) :
    ((∃ error, load first = .error error ∧ load second = .error error) ∨
      ∃ firstTable secondTable, load first = .ok firstTable ∧ load second = .ok secondTable ∧
        firstTable.keys = secondTable.keys ∧
        ∀ key, firstTable.position? key = secondTable.position? key) ∧
    (∀ path (command : DocumentCommand),
      command.reportText path first = command.reportText path second) ∧
    ∀ path (command : DocumentCommand) (directory other : Files.Directory),
      directory.textAt (.ofText path) = .ok first → other.textAt (.ofText path) = .ok second →
        command.output path directory = command.output path other := by
  have reports : ∀ path (command : DocumentCommand),
      command.reportText path first = command.reportText path second := by
    intro path command
    rw [command.reportText_eq firstRead, equal, ← command.reportText_eq secondRead]
  refine ⟨?_, reports, ?_⟩
  · rw [load_of_configurations firstRead, load_of_configurations secondRead]
    apply outcomes_of_withoutPasswords_eq
    rw [← publish_map_withoutPasswords, equal, publish_map_withoutPasswords]
  · intro path command directory other found otherFound
    rw [command.output_eq found, command.output_eq otherFound, reports]

end

section

attribute [local instance] Libraries.sizeLimited

/-- A document with a password for both directions. -/
def passwordText : String :=
  "<configurations><configuration><projects><project>P</project></projects><mappings>
    <mappingIn><connection username='u' password='p'/></mappingIn>
    <mappingOut><connection password='o'/></mappingOut>
  </mappings></configuration></configurations>"

/-- The same document with the first password changed and the second one gone. -/
def otherPasswordText : String :=
  "<configurations><configuration><projects><project>P</project></projects><mappings>
    <mappingIn><connection username='u' password='&quot;q'/></mappingIn>
    <mappingOut><connection/></mappingOut>
  </mappings></configuration></configurations>"

/-- The configuration of these documents with given passwords. -/
def configurationWithPasswords (inbound outbound : Option String) : Configuration where
  projects := TextSet.ofList ["P"]
  inboundMappings := [{ username := "u", password := inbound }]
  outboundMappings := [{ direction := .outbound, password := outbound }]

set_option maxRecDepth 8000 in
/-- Two documents that differ in passwords only, one of which has a quote in a password and
one of which lacks a password. -/
theorem outputs_eq_passwordText :
    configurationsIn? passwordText = some [configurationWithPasswords "p" "o"] ∧
      configurationsIn? otherPasswordText = some [configurationWithPasswords "\"q" none] ∧
      [configurationWithPasswords "p" "o"].map Configuration.withoutPasswords =
        [configurationWithPasswords "\"q" none].map Configuration.withoutPasswords ∧
      ∀ command : DocumentCommand,
        command.output (.ofText "rules.xml") (.ofFiles [("rules.xml", passwordText.toUTF8)]) =
          command.output (.ofText "rules.xml")
            (.ofFiles [("rules.xml", otherPasswordText.toUTF8)]) := by
  have firstRead : configurationsIn? passwordText = some [configurationWithPasswords "p" "o"] :=
    (configurationsIn?_ofList _).trans (by decide +kernel)
  have secondRead :
      configurationsIn? otherPasswordText = some [configurationWithPasswords "\"q" none] :=
    (configurationsIn?_ofList _).trans (by decide +kernel)
  have equal : [configurationWithPasswords "p" "o"].map Configuration.withoutPasswords =
      [configurationWithPasswords "\"q" none].map Configuration.withoutPasswords := by
    decide +kernel
  have found (text : String) :
      (Files.Directory.ofFiles [("rules.xml", text.toUTF8)]).textAt
        (.ofText (.ofText "rules.xml")) = .ok text :=
    Files.Directory.textAt_of_read rfl
  refine ⟨firstRead, secondRead, equal, fun command => ?_⟩
  exact (outputs_eq_of_withoutPasswords_eq firstRead secondRead equal).2.2
    (.ofText "rules.xml") command _ _ (found passwordText) (found otherPasswordText)

end

end IssueSync
