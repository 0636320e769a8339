import IssueSync.Proofs.Text.SystemText
import IssueSync.Proofs.Toml.Markup
import IssueSync.Program.Settings

/-! # Settings as texts

Plain settings can be written, and are read from the text that is written of them
(`Settings.IsPlain.exists_toText?`). A text that holds settings is no mapping document
(`Settings.load_of_ofText?`).
-/

namespace IssueSync.Settings

open Toml (Plain Bare writtenLine)

/-- The path and the filter of the settings are plain texts, as far as they are set. -/
def IsPlain (settings : Settings) : Prop :=
  (∀ path ∈ settings.document, ∃ text, path = .ofText text ∧ Plain text.toList) ∧
    ∀ filter ∈ settings.logFilter, Plain filter.toList

/-- Settings with a plain document and nothing else are plain. -/
theorem isPlain_document {document : String} (plain : Plain document.toList) :
    IsPlain { document := some (.ofText document) } :=
  ⟨fun _ named => ⟨document, (Option.some.inj named).symm, plain⟩, nofun⟩

/-! ### Settings with texts -/

section

variable {document logFilter : Option String}

/-- What is written of settings with a text for the path. -/
theorem toText?_map_ofText (document logFilter : Option String) :
    toText? ⟨document.map .ofText, logFilter⟩ =
      some (line "document" document ++ line "log_filter" logFilter) := by
  cases document with
  | none => rfl
  | some path => simp [toText?]

/-- The settings that are set, with their keys. -/
def entries (document logFilter : Option String) : List (List Char × List Char) :=
  (document.toList.map fun path => ("document".toList, path.toList)) ++
    logFilter.toList.map fun filter => ("log_filter".toList, filter.toList)

theorem toList_line_some (key value : String) :
    (line key (some value)).toList = writtenLine key.toList value.toList := by
  simp [line, writtenLine]

/-- Settings are written line by line. -/
theorem toList_lines (document logFilter : Option String) :
    (line "document" document ++ line "log_filter" logFilter).toList =
      (entries document logFilter).flatMap fun entry => writtenLine entry.1 entry.2 := by
  rw [String.toList_append]
  cases document with
  | none =>
      cases logFilter with
      | none => rfl
      | some filter => rw [toList_line_some]; simp [entries, line]
  | some path =>
      cases logFilter with
      | none => rw [toList_line_some]; simp [entries, line]
      | some filter => rw [toList_line_some, toList_line_some]; simp [entries]

variable (documentPlain : ∀ path ∈ document, Plain path.toList)
  (filterPlain : ∀ filter ∈ logFilter, Plain filter.toList)

include documentPlain filterPlain

/-- Every line has a key without quotes and a plain value. -/
theorem sound_entries :
    ∀ entry ∈ entries document logFilter, Bare entry.1 ∧ Plain entry.2 := by
  have documentKey : Bare "document".toList := ⟨by decide, List.all_eq_true.mp (by decide)⟩
  have filterKey : Bare "log_filter".toList := ⟨by decide, List.all_eq_true.mp (by decide)⟩
  intro entry listed
  rw [entries, List.mem_append] at listed
  rcases listed with inDocument | inFilter
  · obtain ⟨path, set, rfl⟩ := List.mem_map.mp inDocument
    exact ⟨documentKey, documentPlain path (Option.mem_toList.mp set)⟩
  · obtain ⟨text, set, rfl⟩ := List.mem_map.mp inFilter
    exact ⟨filterKey, filterPlain text (Option.mem_toList.mp set)⟩

/-- Plain lines are read as they were written. -/
theorem ofText?_lines :
    ofText? (line "document" document ++ line "log_filter" logFilter) =
      some ⟨document.map .ofText, logFilter⟩ := by
  have sound := sound_entries documentPlain filterPlain
  have lines := Toml.readLines?_writtenLines sound
    (Nat.lt_succ_of_le (Toml.length_le_writtenLines (entries document logFilter)))
  have parsed : Toml.parse? (line "document" document ++ line "log_filter" logFilter) =
      Toml.entriesOf? ((entries document logFilter).map fun entry =>
        .entry [String.ofList entry.1] (.text (String.ofList entry.2))) := by
    rw [Toml.parse?, toList_lines]
    split
    · next same =>
        have bare := fun entry listed => (sound entry listed).1
        have part : Toml.isBareKey '\uFEFF' = true :=
          Toml.isBareKey_of_head?_writtenLines bare (same ▸ rfl)
        exact absurd part (by decide)
    · rw [lines]
      rfl
  have named : ((entries document logFilter).map fun entry =>
        Toml.Line.entry [String.ofList entry.1] (.text (String.ofList entry.2))) =
      (document.toList.map fun path => .entry ["document"] (.text path)) ++
        logFilter.toList.map fun filter => .entry ["log_filter"] (.text filter) := by
    simp only [entries, List.map_append, List.map_map, Function.comp_def, String.ofList_toList]
  rw [ofText?, parsed, named]
  cases document with
  | none =>
      cases logFilter with
      | none => rfl
      | some filter => rfl
  | some path =>
      cases logFilter with
      | none => rfl
      | some filter => rfl

end

/-! ### Writing and reading -/

/-- Plain settings are written, and read as they were. -/
theorem IsPlain.exists_toText? {settings : Settings} (plain : settings.IsPlain) :
    ∃ text, settings.toText? = some text ∧ ofText? text = some settings := by
  obtain ⟨document, logFilter⟩ := settings
  obtain ⟨documentPlain, filterPlain⟩ := plain
  cases document with
  | none =>
      exact ⟨_, toText?_map_ofText none logFilter,
        ofText?_lines (fun _ set => nomatch set) filterPlain⟩
  | some path =>
      obtain ⟨text, rfl, textPlain⟩ := documentPlain path rfl
      exact ⟨_, toText?_map_ofText (some text) logFilter,
        ofText?_lines (fun _ set => Option.some.inj set ▸ textPlain) filterPlain⟩

/-- A text that holds settings is no mapping document. -/
theorem load_of_ofText? [Libraries] {text : String} {settings : Settings}
    (found : ofText? text = some settings) :
    IssueSync.load text = .error (.malformed (Libraries.documentReason text)) := by
  obtain ⟨entries, parsed, -⟩ := Option.bind_eq_some_iff.mp found
  have refused : Xml.Document.parse? text = none := by
    rw [Option.eq_none_iff_forall_ne_some]
    intro document accepted
    rw [Toml.parse?_of_document accepted] at parsed
    cases parsed
  rw [IssueSync.load, configurationsIn?, refused]
  rfl

end IssueSync.Settings
