import Mathlib.Data.List.Infix
import IssueSync.Proofs.Text.Rewriting
import IssueSync.Proofs.Xml.Escape

/-! # Escaped texts that are read back

In an escaped text every ampersand begins a reference
(`exists_reference_of_escape_eq`), since the ampersands of the text itself are
written as references too. So the references can be told from what only looked
like one in the text, and putting the characters back in their places, once and
from left to right, gives the text again (`unescape_escape`).
-/

namespace IssueSync.Xml

/-- A text with the character that it stands for in the place of each reference,
from left to right. What is put in is not looked at again. -/
def unescape : List Char → List Char
  | '&' :: 'a' :: 'm' :: 'p' :: ';' :: rest => '&' :: unescape rest
  | '&' :: 'l' :: 't' :: ';' :: rest => '<' :: unescape rest
  | '&' :: 'g' :: 't' :: ';' :: rest => '>' :: unescape rest
  | '&' :: 'q' :: 'u' :: 'o' :: 't' :: ';' :: rest => '"' :: unescape rest
  | character :: rest => character :: unescape rest
  | [] => []

variable {position : Position} {text : String} {character : Char} {rest before after : List Char}

theorem unescape_cons (other : character ≠ '&') (rest : List Char) :
    unescape (character :: rest) = character :: unescape rest := by
  rw [unescape]
  all_goals exact fun _ same _ => other same

/-- A character is read back from its escaped form, whatever follows. -/
theorem unescape_escapeCharacter (position : Position) (character : Char) (rest : List Char) :
    unescape (escapeCharacter position character ++ rest) = character :: unescape rest := by
  unfold escapeCharacter
  split
  · rfl
  · rfl
  · rfl
  · cases position with
    | betweenTags => exact unescape_cons (by decide) rest
    | insideQuotes => rfl
  · next ampersand _ _ _ => exact unescape_cons ampersand rest

/-- A text is read back from its escaped form. -/
theorem unescape_escape (position : Position) (text : String) :
    unescape (escape position text).toList = text.toList := by
  rw [escape, String.toList_ofList]
  exact Text.flatMap_of_cons rfl (unescape_escapeCharacter position) text.toList

/-- From an ampersand on, what is written of a character is a reference. -/
theorem mem_references_of_suffix (suffix : '&' :: rest <:+ escapeCharacter position character) :
    '&' :: rest ∈ references := by
  rcases escapeCharacter_eq position character with ⟨kept, -⟩ | replaced
  · -- The ampersand itself is not kept.
    have same : character = '&' := by
      rw [kept] at suffix
      exact (List.mem_singleton.mp (suffix.mem List.mem_cons_self)).symm
    rw [same] at kept
    cases kept
  · have all : ∀ reference ∈ references, ∀ part ∈ reference.tails,
        part.head? = some '&' → part = reference := by decide
    rw [all _ replaced _ ((List.mem_tails _ _).mpr suffix) rfl]
    exact replaced

/-- Every ampersand in an escaped text begins a reference. -/
theorem exists_reference_of_escape_eq
    (whole : (escape position text).toList = before ++ '&' :: after) :
    ∃ reference ∈ references, reference <+: '&' :: after := by
  rw [escape, String.toList_ofList] at whole
  obtain ⟨character, inner, rest, -, back, written, -, rfl⟩ := Text.exists_of_flatMap_eq whole
  refine ⟨'&' :: rest, mem_references_of_suffix ⟨inner, written.symm⟩, ?_⟩
  rw [← List.cons_append]
  exact List.prefix_append _ _

/-- **Escaping loses nothing and hides nothing.** An escaped text holds no bracket,
and inside quotes no quote; every ampersand in it begins a reference; and it is
read back as the text, so no two texts have the same escaped form. -/
theorem escape_reversible (position : Position) (text : String) :
    let written := (escape position text).toList
    '<' ∉ written ∧ '>' ∉ written ∧ (position = .insideQuotes → '"' ∉ written) ∧
      (∀ before after, written = before ++ '&' :: after →
        ∃ reference ∈ references, reference <+: '&' :: after) ∧
      unescape written = text.toList ∧
      ∀ other, escape position other = escape position text → other = text := by
  intro written
  refine ⟨fun member => (mem_escape member).1 rfl, bracket_not_mem_escape position text, ?_,
    fun _ _ whole => exists_reference_of_escape_eq whole, unescape_escape position text, ?_⟩
  · intro quoted
    subst quoted
    exact quote_not_mem_escape text
  · intro other same
    rw [← String.toList_inj, ← unescape_escape position other, same, unescape_escape]

/-- A text with references, a bracket and a quote of its own, in a value. -/
theorem escape_reversible_referencedText :
    escape .insideQuotes "&amp;lt;<\"" = "&amp;amp;lt;&lt;&quot;" ∧
      '"' ∉ (escape .insideQuotes "&amp;lt;<\"").toList ∧
      (∃ reference ∈ references, reference <+: "&quot;".toList) ∧
      unescape "&amp;amp;lt;&lt;&quot;".toList = "&amp;lt;<\"".toList ∧
      escape .insideQuotes "&lt;<\"" ≠ escape .insideQuotes "&amp;lt;<\"" := by
  have written : escape .insideQuotes "&amp;lt;<\"" = "&amp;amp;lt;&lt;&quot;" := by decide
  obtain ⟨-, -, quotes, ampersands, readBack, distinct⟩ :=
    escape_reversible .insideQuotes "&amp;lt;<\""
  rw [written] at readBack ampersands
  refine ⟨written, quotes rfl, ampersands "&amp;amp;lt;&lt;".toList _ (by decide), readBack, ?_⟩
  intro same
  exact absurd (distinct _ same) (by decide)

end IssueSync.Xml
