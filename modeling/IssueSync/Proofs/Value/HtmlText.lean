import Mathlib.Data.Bool.AllAny
import Mathlib.Data.List.Infix
import IssueSync.Proofs.Text.Rewriting
import IssueSync.Value.Html

/-! # Texts that are read back from HTML

A text that is escaped and then broken into lines is written one character at a
time (`toList_breakLines_escape`): line feeds as markers, seven characters as
references, all others as they are. So the brackets and ampersands in the HTML are
those of markers and references, and the text comes back when markers are turned
into line feeds and references are decoded once (`read_breakLines_escape`).
-/

namespace IssueSync.Html

open Text (exists_of_flatMap_eq)

/-! ### Reading HTML -/

/-- The characters that are written as references. -/
def special : List Char := ['<', '>', '"', '&', '\'', '\x60', '=']

/-- A text with a line feed for every marker, from left to right. -/
def restoreLines : List Char → List Char
  | '<' :: 'B' :: 'R' :: '/' :: '>' :: rest => '\n' :: restoreLines rest
  | character :: rest => character :: restoreLines rest
  | [] => []

/-- A text with its references decoded once, from left to right. -/
def unescape : List Char → List Char
  | '&' :: 'l' :: 't' :: ';' :: rest => '<' :: unescape rest
  | '&' :: 'g' :: 't' :: ';' :: rest => '>' :: unescape rest
  | '&' :: 'q' :: 'u' :: 'o' :: 't' :: ';' :: rest => '"' :: unescape rest
  | '&' :: 'a' :: 'm' :: 'p' :: ';' :: rest => '&' :: unescape rest
  | '&' :: '#' :: 'x' :: '2' :: '7' :: ';' :: rest => '\'' :: unescape rest
  | '&' :: '#' :: 'x' :: '6' :: '0' :: ';' :: rest => '\x60' :: unescape rest
  | '&' :: '#' :: 'x' :: '3' :: 'D' :: ';' :: rest => '=' :: unescape rest
  | character :: rest => character :: unescape rest
  | [] => []

/-- The text that HTML stands for. -/
def read (html : String) : String :=
  String.ofList (unescape (restoreLines html.toList))

theorem restoreLines_cons {character : Char} (other : character ≠ '<') (rest : List Char) :
    restoreLines (character :: rest) = character :: restoreLines rest := by
  rw [restoreLines]
  intro tail same
  exact absurd same other

theorem restoreLines_append {front : List Char} (noBracket : '<' ∉ front) (rest : List Char) :
    restoreLines (front ++ rest) = front ++ restoreLines rest := by
  induction front with
  | nil => rfl
  | cons first front ih =>
      rw [List.mem_cons, not_or] at noBracket
      rw [List.cons_append, restoreLines_cons (Ne.symm noBracket.1), ih noBracket.2,
        List.cons_append]

theorem unescape_cons {character : Char} (other : character ≠ '&') (rest : List Char) :
    unescape (character :: rest) = character :: unescape rest := by
  rw [unescape]
  all_goals exact fun _ same _ => other same

/-! ### What is written of a character -/

/-- A character in HTML. -/
def write (character : Char) : List Char :=
  if character = '\n' then lineBreak else escapeCharacter character

/-- None of the marks is in a text. -/
def Free (marks text : List Char) : Prop :=
  ∀ mark ∈ marks, mark ∉ text

instance (marks text : List Char) : Decidable (Free marks text) :=
  List.decidableBAll _ _

/-- A character without a meaning in HTML is written as it is. -/
theorem escapeCharacter_of_not_mem {character : Char} (plain : character ∉ special) :
    escapeCharacter character = [character] := by
  unfold escapeCharacter
  split
  case h_8 => rfl
  all_goals exact absurd (by decide) plain

/-- No reference holds a bracket. -/
theorem free_escapeCharacter {character : Char} (listed : character ∈ special) :
    Free ['<', '>'] (escapeCharacter character) := by
  have all : ∀ character ∈ special, Free ['<', '>'] (escapeCharacter character) :=
    List.all_iff_forall_prop.mp (by decide)
  exact all character listed

theorem not_mem_of_plain {character mark : Char} (plain : character ∉ special)
    (listed : mark ∈ special) : mark ∉ [character] := fun member =>
  plain (List.mem_singleton.mp member ▸ listed)

/-- What holds of the marker, of the references and of the characters that are
written as they are holds of all that is written. -/
theorem forall_write {P : Char → List Char → Prop} (marker : P '\n' lineBreak)
    (reference : ∀ character ∈ special, P character (escapeCharacter character))
    (plain : ∀ character, character ≠ '\n' → character ∉ special → P character [character])
    (character : Char) : P character (write character) := by
  rw [write]
  split
  · next lineFeed => exact lineFeed ▸ marker
  · next other =>
      by_cases listed : character ∈ special
      · exact reference character listed
      · rw [escapeCharacter_of_not_mem listed]
        exact plain character other listed

/-- The characters that are never written. -/
theorem free_write (character : Char) :
    Free ['\n', '"', '\'', '\x60', '='] (write character) := by
  refine forall_write (P := fun _ written => Free ['\n', '"', '\'', '\x60', '='] written)
    (by decide) (List.all_iff_forall_prop.mp (by decide)) ?_ character
  intro character other plain mark listed member
  rw [List.mem_singleton] at member
  rcases List.mem_cons.mp listed with lineFeed | others
  · exact other (member ▸ lineFeed)
  · have all : ∀ mark ∈ ['"', '\'', '\x60', '='], mark ∈ special :=
      List.all_iff_forall_prop.mp (by decide)
    exact plain (member ▸ all mark others)

/-- The marker is only put for line feeds, which are not escaped. -/
theorem toList_breakLines_escape (text : String) :
    (breakLines (escape text)).toList = text.toList.flatMap write := by
  rw [breakLines, escape, String.toList_ofList, String.toList_ofList, List.flatMap_assoc]
  refine List.flatMap_congr fun character _ => ?_
  refine forall_write (P := fun character written => (escapeCharacter character).flatMap
    (fun part => if part = '\n' then lineBreak else [part]) = written) rfl
    (List.all_iff_forall_prop.mp (by decide)) ?_ character
  intro character other plain
  rw [escapeCharacter_of_not_mem plain, List.flatMap_singleton, if_neg other]

/-- What is written for a character without its marker is its escaped form. -/
theorem restoreLines_write (character : Char) (rest : List Char) :
    restoreLines (write character ++ rest) = escapeCharacter character ++ restoreLines rest := by
  refine forall_write (P := fun character written =>
    restoreLines (written ++ rest) = escapeCharacter character ++ restoreLines rest)
    rfl ?_ ?_ character
  · intro character listed
    exact restoreLines_append (free_escapeCharacter listed '<' (by decide)) rest
  · intro character _ plain
    have noBracket : character ≠ '<' := fun bracket => plain (bracket ▸ by decide)
    rw [escapeCharacter_of_not_mem plain]
    exact restoreLines_cons noBracket rest

/-- A character is read back from its escaped form, whatever follows. -/
theorem unescape_escapeCharacter (character : Char) (rest : List Char) :
    unescape (escapeCharacter character ++ rest) = character :: unescape rest := by
  by_cases listed : character ∈ special
  · simp only [special, List.mem_cons, List.not_mem_nil, or_false] at listed
    rcases listed with rfl | rfl | rfl | rfl | rfl | rfl | rfl
    all_goals rfl
  · have noAmpersand : character ≠ '&' := fun ampersand => listed (ampersand ▸ by decide)
    rw [escapeCharacter_of_not_mem listed]
    exact unescape_cons noAmpersand rest

/-! ### Marks in HTML -/

/-- From an opening bracket on, what is written of a character is the marker. -/
theorem eq_lineBreak_of_suffix {character : Char} {rest : List Char}
    (suffix : '<' :: rest <:+ write character) : '<' :: rest = lineBreak := by
  revert suffix
  refine forall_write (P := fun _ written => '<' :: rest <:+ written → '<' :: rest = lineBreak)
    ?_ ?_ ?_ character
  · have all : ∀ part ∈ lineBreak.tails, part.head? = some '<' → part = lineBreak := by decide
    exact fun suffix => all _ ((List.mem_tails _ _).mpr suffix) rfl
  · intro character listed suffix
    exact absurd (suffix.mem List.mem_cons_self) (free_escapeCharacter listed '<' (by decide))
  · intro character _ plain suffix
    exact absurd (suffix.mem List.mem_cons_self) (not_mem_of_plain plain (by decide))

/-- Up to a closing bracket, what is written of a character is the marker. -/
theorem eq_lineBreak_of_prefix {character : Char} {front : List Char}
    (begins : front ++ ['>'] <+: write character) : front ++ ['>'] = lineBreak := by
  have mem {written : List Char} (begins : front ++ ['>'] <+: written) : '>' ∈ written :=
    begins.mem (List.mem_append_right _ List.mem_cons_self)
  revert begins
  refine forall_write (P := fun _ written => front ++ ['>'] <+: written →
    front ++ ['>'] = lineBreak) ?_ ?_ ?_ character
  · have all : ∀ part ∈ lineBreak.inits, part.getLast? = some '>' → part = lineBreak := by decide
    exact fun begins => all _ ((List.mem_inits _ _).mpr begins) List.getLast?_concat
  · intro character listed begins
    exact absurd (mem begins) (free_escapeCharacter listed '>' (by decide))
  · intro character _ plain begins
    exact absurd (mem begins) (not_mem_of_plain plain (by decide))

/-- From an ampersand on, what is written of a character is a reference. -/
theorem exists_eq_escapeCharacter_of_suffix {character : Char} {rest : List Char}
    (suffix : '&' :: rest <:+ write character) :
    ∃ named ∈ special, '&' :: rest = escapeCharacter named := by
  revert suffix
  refine forall_write (P := fun _ written => '&' :: rest <:+ written →
    ∃ named ∈ special, '&' :: rest = escapeCharacter named) ?_ ?_ ?_ character
  · have none : '&' ∉ lineBreak := by decide
    exact fun suffix => absurd (suffix.mem List.mem_cons_self) none
  · have all : ∀ character ∈ special, ∀ part ∈ (escapeCharacter character).tails,
        part.head? = some '&' → part = escapeCharacter character :=
      List.all_iff_forall_prop.mp (by decide)
    exact fun character listed suffix =>
      ⟨character, listed, all _ listed _ ((List.mem_tails _ _).mpr suffix) rfl⟩
  · intro character _ plain suffix
    exact absurd (suffix.mem List.mem_cons_self) (not_mem_of_plain plain (by decide))

/-! ### Texts in HTML -/

/-- A text is read back from HTML. -/
theorem read_breakLines_escape (text : String) : read (breakLines (escape text)) = text := by
  have restored : restoreLines (text.toList.flatMap write) = text.toList.flatMap escapeCharacter :=
    Text.flatMap_of_append rfl restoreLines_write text.toList
  have unescaped : unescape (text.toList.flatMap escapeCharacter) = text.toList :=
    Text.flatMap_of_cons rfl unescape_escapeCharacter text.toList
  rw [read, toList_breakLines_escape, restored, unescaped, String.ofList_toList]

/-- **Text in HTML is harmless and comes back.** The HTML of a text holds no line
feeds, quotes, backquotes or equals signs; opening and closing brackets in it begin
and end markers, and ampersands begin references. The text is what the HTML is read
as, so no two texts have the same HTML. -/
theorem breakLines_escape_harmless (text : String) :
    let html := (breakLines (escape text)).toList
    Free ['\n', '"', '\'', '\x60', '='] html ∧
      (∀ before after, html = before ++ '<' :: after → lineBreak <+: '<' :: after) ∧
      (∀ before after, html = before ++ '>' :: after → lineBreak <:+ before ++ ['>']) ∧
      (∀ before after, html = before ++ '&' :: after →
        ∃ named ∈ special, escapeCharacter named <+: '&' :: after) ∧
      read (breakLines (escape text)) = text ∧
      ∀ other, breakLines (escape other) = breakLines (escape text) → other = text := by
  intro html
  have written : html = text.toList.flatMap write := toList_breakLines_escape text
  refine ⟨?_, ?_, ?_, ?_, read_breakLines_escape text, ?_⟩
  · intro mark listed member
    rw [written, List.mem_flatMap] at member
    obtain ⟨character, -, inside⟩ := member
    exact free_write character mark listed inside
  · intro before after whole
    obtain ⟨character, inner, rest, -, back, found, -, rfl⟩ :=
      exists_of_flatMap_eq (written ▸ whole)
    rw [← List.cons_append, eq_lineBreak_of_suffix ⟨inner, found.symm⟩]
    exact List.prefix_append _ _
  · intro before after whole
    obtain ⟨character, inner, rest, front, -, found, rfl, -⟩ :=
      exists_of_flatMap_eq (written ▸ whole)
    have begins : inner ++ ['>'] <+: write character :=
      ⟨rest, by rw [found, List.append_assoc]; rfl⟩
    rw [List.append_assoc, eq_lineBreak_of_prefix begins]
    exact List.suffix_append _ _
  · intro before after whole
    obtain ⟨character, inner, rest, -, back, found, -, rfl⟩ :=
      exists_of_flatMap_eq (written ▸ whole)
    obtain ⟨named, listed, same⟩ := exists_eq_escapeCharacter_of_suffix ⟨inner, found.symm⟩
    refine ⟨named, listed, ?_⟩
    rw [← List.cons_append, same]
    exact List.prefix_append _ _
  · intro other same
    rw [← read_breakLines_escape other, same, read_breakLines_escape]

/-- A text with a marker, a reference and a line feed of its own. -/
theorem breakLines_escape_harmless_markedText :
    breakLines (escape "<BR/>&lt;\n=") = "&lt;BR/&gt;&amp;lt;<BR/>&#x3D;" ∧
      read "&lt;BR/&gt;&amp;lt;<BR/>&#x3D;" = "<BR/>&lt;\n=" ∧
      lineBreak <+: '<' :: "BR/>&#x3D;".toList ∧
      '=' ∉ (breakLines (escape "<BR/>&lt;\n=")).toList := by
  obtain ⟨clean, opening, -, -, comesBack, -⟩ := breakLines_escape_harmless "<BR/>&lt;\n="
  have html : breakLines (escape "<BR/>&lt;\n=") = "&lt;BR/&gt;&amp;lt;<BR/>&#x3D;" := by decide
  rw [html] at opening comesBack
  exact ⟨html, comesBack, opening "&lt;BR/&gt;&amp;lt;".toList _ (by decide), clean '=' (by decide)⟩

end IssueSync.Html
