import IssueSync.Proofs.Loading.Outcome
import IssueSync.Proofs.Table.KeyOwner
import IssueSync.Proofs.Text.SystemText
import IssueSync.Program.DocumentCommand

/-! # What the commands say about a document

A command that is run in a directory says what it says about the text at its
path (`DocumentCommand.output_eq`), or why there is none
(`DocumentCommand.output_eq_of_fault`). So all commands fail alike, and what
they say about a document that is loaded fits together: the projects that one
lists are those that another counts and the configurations of which a third
gives (`DocumentCommand.outputs_agree`).
-/

namespace IssueSync

/-! ### Commands in a directory -/

/-- What the file at a path reads as, or why it cannot be read. -/
def Files.Directory.textAt (directory : Files.Directory) (path : Files.Path) :
    Except Files.Fault String :=
  (Files.readText (m := StateM Files.Directory) path directory).1

/-- The result of two actions is that of the second one, after the first one. -/
theorem fst_bind {σ α β : Type} (action : StateM σ α) (next : α → StateM σ β) (state : σ) :
    ((action >>= next) state).1 = (next (action state).1 (action state).2).1 := rfl

/-- A file that holds the bytes of a text reads as that text. -/
theorem Files.Directory.textAt_of_read {directory : Files.Directory} {path : Files.Path}
    {text : String} (found : directory.read path = .ok text.toUTF8) :
    directory.textAt path = .ok text := by
  have decoded : String.fromUTF8? text.toUTF8 = some text := fromUTF8?_toUTF8 text
  rw [textAt, Files.readText, fst_bind]
  simp only [Files.FileAccess.read, found, decoded]
  rfl

/-! ### The projects listed -/

/-- A line in the list of projects. -/
structure ProjectEntry where
  key : String
  /-- The number of inbound mappings. -/
  inbound : Nat
  /-- The number of outbound mappings. -/
  outbound : Nat

namespace ProjectEntry

/-- The line that is printed. -/
def line (entry : ProjectEntry) : String :=
  entry.key ++ "\tinbound=" ++ toString entry.inbound ++
    "\toutbound=" ++ toString entry.outbound ++ "\n"

/-- The line about a key that leads to a configuration. -/
def of (key : String) (configuration : Configuration) : ProjectEntry :=
  ⟨key, configuration.inboundMappings.length, configuration.outboundMappings.length⟩

end ProjectEntry

namespace ProjectTable

/-- The lines about the keys of a table, each with the numbers of the
configuration it leads to. -/
def listing (table : ProjectTable) : List ProjectEntry :=
  table.entries.entries.map fun (key, placed) => .of key placed.configuration

/-- The listing has an entry for each project, in the order of their keys. -/
theorem map_key_listing (table : ProjectTable) :
    table.listing.map ProjectEntry.key = table.keys := by
  rw [listing, List.map_map]
  rfl

theorem length_listing (table : ProjectTable) : table.listing.length = table.size :=
  List.length_map _

/-- Each entry of the listing is about the configuration that is in effect for its
project. -/
theorem exists_of_mem_listing {table : ProjectTable} {entry : ProjectEntry}
    (listed : entry ∈ table.listing) :
    ∃ placed, table.entries.get? entry.key = some placed ∧
      entry = .of entry.key placed.configuration := by
  obtain ⟨⟨key, placed⟩, member, rfl⟩ := List.mem_map.mp listed
  exact ⟨placed, TextMap.get?_eq_some_of_mem member, rfl⟩

/-- The keys with a line are those that lead to a configuration. -/
theorem exists_mem_listing_iff {table : ProjectTable} {key : String} :
    (∃ entry ∈ table.listing, entry.key = key) ↔ ∃ found, table.get? key = some found := by
  rw [← List.mem_map, map_key_listing, keys, TextMap.mem_keys_iff, get?]
  simp only [Option.map_eq_some_iff]
  constructor
  · rintro ⟨placed, found⟩
    exact ⟨placed.configuration, placed, found, rfl⟩
  · rintro ⟨-, placed, found, -⟩
    exact ⟨placed, found⟩

/-- A key leads to a configuration that claims it. -/
theorem mem_projects_of_entries_get? {configurations : List Configuration} {key : String}
    {placed : Placed} (found : (ofConfigurations configurations).entries.get? key = some placed) :
    key ∈ placed.configuration.projects := by
  obtain ⟨-, -, -, -, claims, -⟩ := entries_get?_eq_some_iff.mp found
  exact claims

end ProjectTable

namespace DocumentCommand

/-- Every key of a table gives its line. -/
theorem report_projects (path : SystemText) (table : ProjectTable) :
    projects.report path table = .ok (String.join (table.listing.map ProjectEntry.line)) := by
  rw [report, ProjectTable.keys, TextMap.keys, ProjectTable.listing, List.map_map, List.map_map]
  refine congrArg (fun lines => Except.ok (String.join lines)) (List.map_congr_left ?_)
  rintro ⟨key, placed⟩ member
  simp only [Function.comp_apply, ProjectTable.get?, TextMap.get?_eq_some_of_mem member,
    Option.map_some, Option.getD_some]
  rfl

/-- What commands say about a table: as many projects are counted as listed, one
for each key of the table in increasing order; for these keys, and no others,
there is a configuration, which has the key among its projects and the listed
numbers of mappings. -/
structure Agree (path : SystemText) (table : ProjectTable) (entries : List ProjectEntry)
    (answer : DocumentCommand → Except Failure String) : Prop where
  counted : answer validate = .ok (path.shown ++ ": valid (" ++
    toString table.configurations.length ++ " configuration(s), " ++ toString entries.length ++
      " project(s))")
  listed : answer projects = .ok (String.join (entries.map ProjectEntry.line))
  keys : entries.map ProjectEntry.key = table.keys
  increasing : (entries.map ProjectEntry.key).Pairwise (· < ·)
  shown_iff : ∀ key, (∃ shown, answer (configuration key) = .ok shown) ↔
    ∃ entry ∈ entries, entry.key = key
  unknown : ∀ key, (∀ entry ∈ entries, entry.key ≠ key) →
    answer (configuration key) = .error (.projectUnknown key)
  shown : ∀ entry ∈ entries, ∃ found, table.get? entry.key = some found ∧
    answer (configuration entry.key) = .ok found.toJson.pretty ∧
    entry.inbound = found.inboundMappings.length ∧
    entry.outbound = found.outboundMappings.length ∧ entry.key ∈ found.projects

/-- The configuration of a project that has one is shown as JSON. -/
theorem report_configuration_of_some {path : SystemText} {key : String} {table : ProjectTable}
    {found : Configuration} (leads : table.get? key = some found) :
    (configuration key).report path table = .ok found.toJson.pretty := by
  rw [report, leads]

/-- A project without a configuration is an error. -/
theorem report_configuration_of_none {path : SystemText} {key : String} {table : ProjectTable}
    (none : table.get? key = none) :
    (configuration key).report path table = .error (.projectUnknown key) := by
  rw [report, none]

/-- What commands say about a table of configurations fits together. -/
theorem agree_report (path : SystemText) (configurations : List Configuration) :
    let table := ProjectTable.ofConfigurations configurations
    Agree path table table.listing fun command => command.report path table := by
  intro table
  refine ⟨?_, report_projects path table, table.map_key_listing, ?_, ?_, ?_, ?_⟩
  · show validate.report path table = _
    rw [report, ProjectTable.length_listing]
  · rw [ProjectTable.map_key_listing]
    exact table.entries.increasing
  · intro key
    rw [ProjectTable.exists_mem_listing_iff]
    cases leads : table.get? key with
    | none => simp [report_configuration_of_none leads]
    | some found => simp [report_configuration_of_some leads]
  · intro key others
    apply report_configuration_of_none
    rw [Option.eq_none_iff_forall_ne_some]
    intro found leads
    obtain ⟨entry, listed, same⟩ := ProjectTable.exists_mem_listing_iff.mpr ⟨found, leads⟩
    exact others entry listed same
  · intro entry listed
    obtain ⟨placed, placedAt, same⟩ := ProjectTable.exists_of_mem_listing listed
    have leads : table.get? entry.key = some placed.configuration := by
      rw [ProjectTable.get?, placedAt, Option.map_some]
    refine ⟨placed.configuration, leads, report_configuration_of_some leads, ?_, ?_,
      ProjectTable.mem_projects_of_entries_get? placedAt⟩
    · rw [same]
      rfl
    · rw [same]
      rfl

end DocumentCommand

section

variable [Libraries]

/-- What a command says when it is run in a directory. -/
def DocumentCommand.output (command : DocumentCommand) (path : SystemText)
    (directory : Files.Directory) : Except Failure String :=
  (command.run (m := StateM Files.Directory) path directory).1

/-- A command that is run in a directory says what it says about the text that
it reads there. -/
theorem DocumentCommand.output_eq (command : DocumentCommand) {path : SystemText} {text : String}
    {directory : Files.Directory} (found : directory.textAt (.ofText path) = .ok text) :
    command.output path directory = command.reportText path text := by
  rw [Files.Directory.textAt] at found
  rw [output, run, fst_bind, found]
  rfl

/-- Where nothing can be read a command says why. -/
theorem DocumentCommand.output_eq_of_fault (command : DocumentCommand) {path : SystemText}
    {directory : Files.Directory} {fault : Files.Fault}
    (found : directory.textAt (.ofText path) = .error fault) :
    command.output path directory = .error (.file fault) := by
  rw [Files.Directory.textAt] at found
  rw [output, run, fst_bind, found]
  rfl

namespace DocumentCommand

/-- **The commands agree.** Where the file at a path cannot be read, or the
document in it is not loaded, all commands fail with one error. Otherwise what
they say about the table of the document fits together. -/
theorem outputs_agree (path : SystemText) (directory : Files.Directory) :
    (∃ fault, directory.textAt (.ofText path) = .error fault ∧
        ∀ command : DocumentCommand, command.output path directory = .error (.file fault)) ∨
      (∃ text error, directory.textAt (.ofText path) = .ok text ∧ load text = .error error ∧
        ∀ command : DocumentCommand, command.output path directory = .error (.document error)) ∨
      ∃ text table entries, directory.textAt (.ofText path) = .ok text ∧ load text = .ok table ∧
        Agree path table entries fun command => command.output path directory := by
  cases read : directory.textAt (.ofText path) with
  | error fault => exact .inl ⟨fault, rfl, fun command => command.output_eq_of_fault read⟩
  | ok text =>
      have outputs (command : DocumentCommand) :
          command.output path directory = command.reportText path text :=
        command.output_eq read
      cases outcome : load text with
      | error error =>
          refine .inr (.inl ⟨text, error, rfl, outcome, fun command => ?_⟩)
          rw [outputs, reportText, outcome]
      | ok table =>
          obtain ⟨configurations, -, -, rfl⟩ := exists_of_load outcome
          have agree := agree_report path configurations
          generalize ProjectTable.ofConfigurations configurations = table at outcome agree
          have reports : (fun command : DocumentCommand => command.output path directory) =
              fun command => command.report path table := by
            funext command
            rw [outputs, reportText, outcome]
          exact .inr (.inr ⟨text, table, table.listing, rfl, outcome, reports ▸ agree⟩)

end DocumentCommand

end

namespace DocumentCommand

section

attribute [local instance] Libraries.sizeLimited

/-- A document in which a second configuration takes a project over, and a third
has none. -/
def sharedText : String :=
  "<configurations>
    <configuration><projects><project>B</project><project>A</project></projects>
      <mappings><mappingIn/></mappings></configuration>
    <configuration><projects><project>B</project></projects>
      <mappings><mappingOut/><mappingOut/></mappings></configuration>
    <configuration/>
  </configurations>"

/-- What is read of this document. -/
def sharedConfigurations : List Configuration :=
  [{ projects := TextSet.ofList ["A", "B"], inboundMappings := [{}] },
    { projects := TextSet.ofList ["B"],
      outboundMappings := [{ direction := .outbound }, { direction := .outbound }] },
    {}]

set_option maxRecDepth 8000 in
/-- The numbers listed for a shared project are those of the configuration that
is shown. -/
theorem outputs_agree_sharedText :
    ∃ table entries, load sharedText = .ok table ∧
      (Agree (.ofText "rules.xml") table entries fun command =>
        command.output (.ofText "rules.xml") (.ofFiles [("rules.xml", sharedText.toUTF8)])) ∧
      entries.map ProjectEntry.key = ["A", "B"] ∧
      ∃ entry ∈ entries, entry.key = "B" ∧ entry.inbound = 0 ∧ entry.outbound = 2 := by
  have read : configurationsIn? sharedText = some sharedConfigurations :=
    (configurationsIn?_ofList _).trans (by decide +kernel)
  have resolved : Resolved sharedConfigurations := by
    rw [← allComplaints_eq_nil_iff]
    decide +kernel
  have loaded : load sharedText = .ok (ProjectTable.ofConfigurations sharedConfigurations) := by
    rw [load_of_configurations read, publish_of_resolved resolved]
  have found : (Files.Directory.ofFiles [("rules.xml", sharedText.toUTF8)]).textAt
      (.ofText (.ofText "rules.xml")) = .ok sharedText := Files.Directory.textAt_of_read rfl
  rcases outputs_agree (.ofText "rules.xml") (.ofFiles [("rules.xml", sharedText.toUTF8)]) with
    ⟨fault, unread, -⟩ | ⟨text, error, same, refused, -⟩ |
    ⟨text, table, entries, same, loads, agree⟩
  · rw [found] at unread
    cases unread
  · cases found.symm.trans same
    rw [loaded] at refused
    cases refused
  · cases found.symm.trans same
    cases loaded.symm.trans loads
    have keys : entries.map ProjectEntry.key = ["A", "B"] := agree.keys.trans (by decide +kernel)
    have key : "B" ∈ entries.map ProjectEntry.key := keys ▸ by decide
    obtain ⟨entry, listed, named⟩ := List.mem_map.mp key
    obtain ⟨shown, leads, -, inbound, outbound, -⟩ := agree.shown entry listed
    have second : (ProjectTable.ofConfigurations sharedConfigurations).get? "B" =
        sharedConfigurations[1]? := by
      decide +kernel
    rw [named, second] at leads
    cases leads
    exact ⟨_, entries, loads, agree, keys, entry, listed, named, inbound, outbound⟩

end

end DocumentCommand

end IssueSync
