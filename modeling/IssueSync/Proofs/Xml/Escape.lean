import IssueSync.Xml.Markup

/-! # Escaped texts

An escaped text has references for some characters and keeps the others. So it
holds no bracket, and besides the characters of the text only those of the
references (`mem_escape`); a text without ampersands and brackets is not
changed at all (`escape_of_plain`).
-/

namespace IssueSync.Xml

/-- The references that stand for characters in markup. -/
def references : List (List Char) :=
  [['&', 'a', 'm', 'p', ';'], ['&', 'l', 't', ';'], ['&', 'g', 't', ';'],
    ['&', 'q', 'u', 'o', 't', ';']]

/-- A text without ampersands and brackets. -/
def IsPlain (text : String) : Prop :=
  ∀ character ∈ text.toList, character ≠ '&' ∧ character ≠ '<' ∧ character ≠ '>'

instance (text : String) : Decidable (IsPlain text) :=
  List.decidableBAll _ _

variable {position : Position} {text : String} {character : Char}

/-- A character is kept or becomes a reference; brackets are never kept. -/
theorem escapeCharacter_eq (position : Position) (character : Char) :
    escapeCharacter position character = [character] ∧ character ≠ '<' ∧ character ≠ '>' ∨
      escapeCharacter position character ∈ references := by
  unfold escapeCharacter
  split
  · exact .inr (by decide)
  · exact .inr (by decide)
  · exact .inr (by decide)
  · cases position with
    | betweenTags => exact .inl (by decide)
    | insideQuotes => exact .inr (by decide)
  · next left right _ => exact .inl ⟨rfl, left, right⟩

/-- The characters of an escaped text. -/
theorem mem_escape (member : character ∈ (escape position text).toList) :
    character ≠ '<' ∧ character ≠ '>' ∧
      (character ∈ text.toList ∨ ∃ reference ∈ references, character ∈ reference) := by
  rw [escape, String.toList_ofList, List.mem_flatMap] at member
  obtain ⟨original, inText, written⟩ := member
  rcases escapeCharacter_eq position original with ⟨kept, left, right⟩ | replaced
  · rw [kept, List.mem_singleton] at written
    subst written
    exact ⟨left, right, .inl inText⟩
  · have clear : ∀ reference ∈ references, '<' ∉ reference ∧ '>' ∉ reference := by
      decide
    obtain ⟨left, right⟩ := clear _ replaced
    exact ⟨fun same => left (same ▸ written), fun same => right (same ▸ written),
      .inr ⟨_, replaced, written⟩⟩

/-- A character outside the references is in the escaped text only when it is in
the text. -/
theorem not_mem_escape (absent : character ∉ text.toList)
    (outside : ∀ reference ∈ references, character ∉ reference) :
    character ∉ (escape position text).toList := by
  intro member
  rcases (mem_escape member).2.2 with inText | ⟨reference, listed, part⟩
  · exact absent inText
  · exact outside reference listed part

theorem escape_ne_nil (filled : text ≠ "") : (escape position text).toList ≠ [] := by
  rw [escape, String.toList_ofList]
  intro blank
  have characters : text.toList ≠ [] := by simpa using filled
  obtain ⟨first, rest, whole⟩ := List.exists_cons_of_ne_nil characters
  rw [whole, List.flatMap_cons, List.append_eq_nil_iff] at blank
  rcases escapeCharacter_eq position first with ⟨kept, -⟩ | replaced
  · rw [kept] at blank
    cases blank.1
  · have clear : [] ∉ references := by
      decide
    exact clear (blank.1 ▸ replaced)

/-- No text is written with a closing bracket, so that one ends a tag. -/
theorem bracket_not_mem_escape (position : Position) (text : String) :
    '>' ∉ (escape position text).toList :=
  fun member => (mem_escape member).2.1 rfl

/-- No value is written with a quote, so that one ends the value. -/
theorem quote_not_mem_escape (value : String) : '"' ∉ (escape .insideQuotes value).toList := by
  rw [escape, String.toList_ofList, List.mem_flatMap]
  rintro ⟨character, -, member⟩
  unfold escapeCharacter at member
  split at member
  · revert member; decide
  · revert member; decide
  · revert member; decide
  · revert member; decide
  · next other => exact other (List.mem_singleton.mp member).symm

theorem escape_append (position : Position) (first second : String) :
    escape position (first ++ second) = escape position first ++ escape position second := by
  rw [escape, String.toList_append, List.flatMap_append, String.ofList_append]
  rfl

/-- A plain text is its own markup. -/
theorem escape_of_plain (plain : IsPlain text) : escape .betweenTags text = text := by
  have kept : ∀ character ∈ text.toList, escapeCharacter .betweenTags character = [character] := by
    intro character member
    obtain ⟨ampersand, left, right⟩ := plain character member
    unfold escapeCharacter
    split
    · exact absurd rfl ampersand
    · exact absurd rfl left
    · exact absurd rfl right
    · rfl
    · rfl
  rw [escape, List.flatMap_def, List.map_congr_left kept, ← List.flatMap_def,
    List.flatMap_singleton', String.ofList_toList]

end IssueSync.Xml
