import IssueSync.Proofs.Program.RunEffects
import IssueSync.Proofs.Text.Rewriting
import IssueSync.Proofs.Text.Trimming
import IssueSync.Proofs.Value.TagName

/-! # The output of a transformation

A run prints what a command gives without the blank characters at its end. A tag has
none there; escaped text ends in a blank character if the text does; and text with
markers for its lines does if the text ends in one that is no line feed
(`Transformation.trimEnd_apply_iff`). So what is printed of a transformed text is
that text exactly when it does not end like this (`output_of_transform`).
-/

namespace IssueSync

open Files Files.Directory

namespace Transformation

/-- The text keeps its end when it is transformed and the blank characters at the end
go. -/
def KeepsEnd (text : String) : Transformation → Prop
  | encodeTag => True
  | escapeHtml => ∀ last ∈ text.toList.getLast?, Text.isBlank last = false
  | toHtml => ∀ last ∈ text.toList.getLast?, Text.isBlank last = true → last = '\n'

/-! ### The last character -/

/-- What a text written a character at a time ends in depends on its last character. -/
theorem trimEnd_flatMap_iff {part : Char → List Char} (filled : ∀ character, part character ≠ [])
    (text : String) :
    Text.trimEnd (String.ofList (text.toList.flatMap part)) =
        String.ofList (text.toList.flatMap part) ↔
      ∀ last ∈ text.toList.getLast?, ∀ written ∈ (part last).getLast?,
        Text.isBlank written = false := by
  rw [Text.trimEnd_eq_self_iff, String.toList_ofList, Text.getLast?_flatMap_of_ne_nil filled]
  simp only [Option.mem_def, Option.bind_eq_some_iff]
  constructor
  · intro shows last isLast written isWritten
    exact shows written ⟨last, isLast, isWritten⟩
  · intro shows written ends
    obtain ⟨last, isLast, isWritten⟩ := ends
    exact shows last isLast written isWritten

/-- No letter, digit or underscore is blank. -/
theorem isBlank_of_isPlain {character : Char} (plain : TagName.isPlain character = true) :
    Text.isBlank character = false := by
  have all : ∀ code < 123, TagName.isPlain (Char.ofNat code) = true →
      Text.isBlank (Char.ofNat code) = false := by
    decide
  exact TagName.of_isPlain plain all

/-- A tag ends in a letter, a digit or an underscore. -/
theorem isBlank_of_getLast?_encodeCharacter {character written : Char}
    (ends : written ∈ (TagName.encodeCharacter character).getLast?) :
    Text.isBlank written = false := by
  rw [TagName.encodeCharacter] at ends
  split at ends
  · next plain =>
      cases ends
      exact isBlank_of_isPlain plain
  · rw [List.getLast?_concat] at ends
    cases ends
    decide

/-- References end in a semicolon, and none stands for a blank character. -/
theorem isBlank_of_getLast?_escapeCharacter {character written : Char}
    (ends : written ∈ (Html.escapeCharacter character).getLast?) :
    Text.isBlank written = Text.isBlank character := by
  unfold Html.escapeCharacter at ends
  split at ends
  all_goals cases ends; rfl

/-- A marker for a line does not end in a blank character, other characters stay. -/
theorem isBlank_breakLine_iff (character : Char) :
    (∀ written ∈ (if character = '\n' then Html.lineBreak else [character]).getLast?,
        Text.isBlank written = false) ↔
      (Text.isBlank character = true → character = '\n') := by
  split
  · next feed =>
      refine iff_of_true (fun written ends => ?_) fun _ => feed
      cases ends
      rfl
  · next other => simp [other]

/-! ### Each transformation -/

/-- No tag ends in a blank character. -/
theorem trimEnd_encode (text : String) :
    Text.trimEnd (TagName.encode text) = TagName.encode text := by
  have filled : ∀ character, TagName.encodeCharacter character ≠ [] := by
    intro character
    rw [TagName.encodeCharacter]
    split <;> simp
  apply (trimEnd_flatMap_iff filled text).mpr
  intro last _ written ends
  exact isBlank_of_getLast?_encodeCharacter ends

/-- Escaped text ends in a blank character when the text does. -/
theorem trimEnd_escape_iff (text : String) :
    Text.trimEnd (Html.escape text) = Html.escape text ↔
      ∀ last ∈ text.toList.getLast?, Text.isBlank last = false := by
  have filled : ∀ character, Html.escapeCharacter character ≠ [] := by
    intro character
    unfold Html.escapeCharacter
    split <;> simp
  refine (trimEnd_flatMap_iff filled text).trans (forall₂_congr fun last _ => ?_)
  constructor
  · intro shows
    have ends := List.getLast?_eq_some_getLast (filled last)
    rw [← isBlank_of_getLast?_escapeCharacter ends]
    exact shows _ ends
  · intro shows written ends
    rw [isBlank_of_getLast?_escapeCharacter ends, shows]

/-- A line feed at the end becomes a marker, which does not end in a blank
character; others stay. -/
theorem trimEnd_breakLines_iff (text : String) :
    Text.trimEnd (Html.breakLines text) = Html.breakLines text ↔
      ∀ last ∈ text.toList.getLast?, Text.isBlank last = true → last = '\n' := by
  have filled : ∀ character : Char,
      (if character = '\n' then Html.lineBreak else [character]) ≠ [] := by
    intro character
    split <;> simp [Html.lineBreak]
  exact (trimEnd_flatMap_iff filled text).trans
    (forall₂_congr fun last _ => isBlank_breakLine_iff last)

/-- **Trimming a transformed text.** Nothing of it is lost exactly when the text keeps
its end. -/
theorem trimEnd_apply_iff (transformation : Transformation) (text : String) :
    Text.trimEnd (transformation.apply text) = transformation.apply text ↔
      transformation.KeepsEnd text := by
  cases transformation with
  | encodeTag => exact iff_of_true (trimEnd_encode text) trivial
  | escapeHtml => exact trimEnd_escape_iff text
  | toHtml => exact trimEnd_breakLines_iff text

end Transformation

/-- **The output of a transformation.** For every text that the arguments give, with
settings the run succeeds and prints the transformed text without the blank characters
at its end, and a line feed. This is the transformed text and a line feed exactly when
the text keeps its end: always for a tag, for escaped text when the text does not end in
a blank character, and for text with markers for its lines when it does not end in one
other than a line feed. -/
theorem output_of_transform [Libraries] (filters : LogFilters) (logVariable : Option String)
    {directory : Directory} {settings : Settings} {words : List SystemText}
    {given : Option SystemText} {transformation : Transformation} {text : String}
    (asks : Invocation.parse? words = some ⟨given, .transform transformation text⟩)
    (gives : directory.GivesSettings given settings) :
    let run := directory.perform (runProgramLogged filters logVariable words)
    run.1.code = 0 ∧ run.1.output = Text.trimEnd (transformation.apply text) ++ "\n" ∧
      (run.1.output = transformation.apply text ++ "\n" ↔ transformation.KeepsEnd text) := by
  intro run
  have ends : run = (.success (transformation.apply text), directory) :=
    perform_runProgramLogged_of_ok asks gives rfl
  have printed : run.1.output = Text.trimEnd (transformation.apply text) ++ "\n" := by
    rw [ends]
    rfl
  refine ⟨by rw [ends]; rfl, printed, ?_⟩
  rw [printed, String.append_left_inj, transformation.trimEnd_apply_iff]

section

attribute [local instance] Libraries.sizeLimited

/-- A text that ends in a line feed, which a marker takes the place of. -/
theorem output_of_transform_lineFeed :
    Invocation.parse? ["transform", "to-html", "two\nlines\n"] =
        some ⟨none, .transform .toHtml "two\nlines\n"⟩ ∧
      (Directory.ofFiles []).GivesSettings none {} ∧
      ((Directory.ofFiles []).perform (runProgramLogged .levels none
        ["transform", "to-html", "two\nlines\n"])).1.output = "two<BR/>lines<BR/>\n" := by
  have asks : Invocation.parse? ["transform", "to-html", "two\nlines\n"] =
      some ⟨none, .transform .toHtml "two\nlines\n"⟩ := by decide
  have gives : (Directory.ofFiles []).GivesSettings none {} := .standard rfl
  refine ⟨asks, gives, ?_⟩
  have keepsEnd : Transformation.toHtml.KeepsEnd "two\nlines\n" := by
    intro last ends _
    cases ends
    rfl
  obtain ⟨-, -, whole⟩ := output_of_transform .levels none asks gives
  exact whole.mpr keepsEnd

/-- A text that ends in a space is escaped as it is, but its end is not printed. -/
theorem not_printed_trailingBlank :
    ¬ ∀ (filters : LogFilters) (logVariable : Option String) (directory : Directory)
      (settings : Settings) (words : List SystemText) (given : Option SystemText)
      (transformation : Transformation) (text : String),
      Invocation.parse? words = some ⟨given, .transform transformation text⟩ →
        directory.GivesSettings given settings →
        let run := directory.perform (runProgramLogged filters logVariable words)
        run.1.code = 0 ∧ run.1.output = transformation.apply text ++ "\n" := by
  intro printed
  obtain ⟨-, said⟩ := printed .levels none (.ofFiles []) {} ["transform", "escape-html", "a "] none
    .escapeHtml "a " (by decide) (.standard rfl)
  revert said
  decide

end

end IssueSync
