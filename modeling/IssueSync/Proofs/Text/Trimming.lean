import IssueSync.Text.Blank

/-! # Trimmed texts

Trimming divides a text into blank characters, a trimmed text and blank
characters again (`exists_trimmed`), and there is only one such division
(`trimmed_blanks`). What begins and ends with a character that shows is in a
text exactly when it is in the trimmed text (`infix_trimmed_iff`).
-/

namespace IssueSync.Text

/-- All characters are blank. -/
def AllBlank (text : List Char) : Prop :=
  ∀ character ∈ text, isBlank character = true

/-- Neither the first nor the last character is blank. -/
def IsTrimmed (text : List Char) : Prop :=
  (∀ first ∈ text.head?, isBlank first = false) ∧ ∀ last ∈ text.getLast?, isBlank last = false

theorem allBlank_nil : AllBlank [] :=
  List.forall_mem_nil _

theorem isTrimmed_nil : IsTrimmed [] := by
  constructor
  · intro first member
    cases member
  · intro last member
    cases member

/-- A trimmed text read backwards is trimmed. -/
theorem IsTrimmed.reverse {text : List Char} (trimmed : IsTrimmed text) :
    IsTrimmed text.reverse := by
  rw [IsTrimmed, List.head?_reverse, List.getLast?_reverse]
  exact trimmed.symm

/-- Blank characters at the front make no difference. -/
theorem dropBlank_blanks {before : List Char} (blank : AllBlank before) (text : List Char) :
    dropBlank (before ++ text) = dropBlank text :=
  List.dropWhile_append_of_pos blank

/-- Nothing is dropped from a text that does not begin with a blank character. -/
theorem dropBlank_of_head {text : List Char} (head : ∀ first ∈ text.head?, isBlank first = false) :
    dropBlank text = text := by
  cases text with
  | nil => rfl
  | cons first rest =>
      have shows : ¬ isBlank first = true := by
        rw [head first rfl]
        exact Bool.false_ne_true
      exact List.dropWhile_cons_of_neg shows

theorem head?_dropBlank {text : List Char} {first : Char} (head : first ∈ (dropBlank text).head?) :
    isBlank first = false := by
  have shows := List.head?_dropWhile_not isBlank text
  rw [dropBlank, Option.mem_def] at head
  rw [head] at shows
  exact shows

/-- What is dropped at the front is blank. -/
theorem exists_dropBlank (text : List Char) :
    ∃ before, text = before ++ dropBlank text ∧ AllBlank before :=
  ⟨text.takeWhile isBlank, List.takeWhile_append_dropWhile.symm,
    List.all_eq_true.mp List.all_takeWhile⟩

/-- What is dropped at the end is blank. -/
theorem exists_dropBlankEnd (text : List Char) :
    ∃ after, text = dropBlankEnd text ++ after ∧ AllBlank after := by
  obtain ⟨before, back, blank⟩ := exists_dropBlank text.reverse
  refine ⟨before.reverse, ?_, fun character member => ?_⟩
  · rw [dropBlankEnd, ← List.reverse_append, ← back, List.reverse_reverse]
  · exact blank character (List.mem_reverse.mp member)

/-- Nothing is dropped exactly when the text does not end in a blank character. -/
theorem dropBlankEnd_eq_self_iff {text : List Char} :
    dropBlankEnd text = text ↔ ∀ last ∈ text.getLast?, isBlank last = false := by
  constructor
  · intro kept last member
    rw [← kept, dropBlankEnd, List.getLast?_reverse] at member
    exact head?_dropBlank member
  · intro shows
    have front : dropBlank text.reverse = text.reverse := by
      apply dropBlank_of_head
      rwa [List.head?_reverse]
    rw [dropBlankEnd, front, List.reverse_reverse]

/-- Trimming the end leaves a text as it is unless it ends in a blank character. -/
theorem trimEnd_eq_self_iff {text : String} :
    trimEnd text = text ↔ ∀ last ∈ text.toList.getLast?, isBlank last = false := by
  rw [← dropBlankEnd_eq_self_iff, trimEnd, ← String.toList_inj, String.toList_ofList]

/-- A text has blank characters around what is left of it. -/
theorem exists_trimmed (text : List Char) :
    ∃ before after, text = before ++ trimmed text ++ after ∧ AllBlank before ∧ AllBlank after := by
  obtain ⟨before, front, blankBefore⟩ := exists_dropBlank text
  obtain ⟨after, back, blankAfter⟩ := exists_dropBlankEnd (dropBlank text)
  refine ⟨before, after, ?_, blankBefore, blankAfter⟩
  rw [trimmed, List.append_assoc, ← back]
  exact front

/-- What is left is trimmed. -/
theorem isTrimmed_trimmed (text : List Char) : IsTrimmed (trimmed text) := by
  constructor
  · intro first member
    -- What is dropped at the end leaves the first character where it is.
    obtain ⟨after, back, -⟩ := exists_dropBlankEnd (dropBlank text)
    have head : first ∈ (dropBlank text).head? := by
      rw [back, ← trimmed, List.head?_append, member]
      rfl
    exact head?_dropBlank head
  · intro last member
    rw [trimmed, dropBlankEnd, List.getLast?_reverse] at member
    exact head?_dropBlank member

/-- A trimmed text is found between blank characters. -/
theorem trimmed_blanks {before core after : List Char} (blankBefore : AllBlank before)
    (isTrimmed : IsTrimmed core) (blankAfter : AllBlank after) :
    trimmed (before ++ core ++ after) = core := by
  have blankBack : AllBlank after.reverse := fun character member =>
    blankAfter character (List.mem_reverse.mp member)
  rw [trimmed, List.append_assoc, dropBlank_blanks blankBefore]
  cases core with
  | nil =>
      have none := dropBlank_blanks blankAfter []
      rw [List.append_nil] at none
      rw [List.nil_append, none]
      rfl
  | cons first rest =>
      have front : dropBlank (first :: rest ++ after) = first :: rest ++ after :=
        dropBlank_of_head isTrimmed.1
      rw [front, dropBlankEnd, List.reverse_append, dropBlank_blanks blankBack,
        dropBlank_of_head isTrimmed.reverse.1, List.reverse_reverse]

/-- Nothing is left exactly of blank texts. -/
theorem trimmed_eq_nil_iff {text : List Char} : trimmed text = [] ↔ AllBlank text := by
  constructor
  · intro none
    obtain ⟨before, after, whole, blankBefore, blankAfter⟩ := exists_trimmed text
    rw [none, List.append_nil] at whole
    rw [whole]
    intro character member
    rcases List.mem_append.mp member with front | back
    · exact blankBefore character front
    · exact blankAfter character back
  · intro blank
    have none := trimmed_blanks blank isTrimmed_nil allBlank_nil
    rwa [List.append_nil, List.append_nil] at none

/-- The trimmed text of a string that is not blank. -/
theorem trimmed?_eq_some_iff {text core : String} :
    trimmed? text = some core ↔ core ≠ "" ∧ trimmed text.toList = core.toList := by
  rw [trimmed?, trim]
  constructor
  · intro found
    split at found
    · cases found
    · next filled =>
        obtain rfl := Option.some.inj found
        exact ⟨filled, String.toList_ofList.symm⟩
  · rintro ⟨filled, same⟩
    rw [same, String.ofList_toList, if_neg filled]

/-- A text is nothing once it is trimmed exactly when it is blank. -/
theorem trimmed?_eq_none_iff {text : String} :
    trimmed? text = none ↔ AllBlank text.toList := by
  rw [← trimmed_eq_nil_iff, trimmed?, trim]
  constructor
  · intro none
    split at none
    · next blank => rwa [← String.toList_eq_nil_iff, String.toList_ofList] at blank
    · cases none
  · intro blank
    rw [blank]
    rfl

/-! ### Parts of a trimmed text -/

variable {before core after wanted : List Char}

/-- What begins with a character that is not blank occurs behind the blank ones. -/
theorem infix_of_infix_blanks (filled : wanted ≠ []) (isTrimmed : IsTrimmed wanted)
    (blank : AllBlank before) (found : wanted <:+: before ++ core) : wanted <:+: core := by
  obtain ⟨left, right, whole⟩ := found
  rw [List.append_assoc] at whole
  rcases List.append_eq_append_iff.mp whole with ⟨gap, front, back⟩ | ⟨gap, -, back⟩
  · -- The blank characters reach as far as the wanted text, which begins with none of them.
    cases gap with
    | nil => exact ⟨[], right, by simpa using back⟩
    | cons first more =>
        have starts : first ∈ wanted.head? := by
          obtain ⟨head, tail, rfl⟩ := List.exists_cons_of_ne_nil filled
          obtain ⟨same, -⟩ := List.cons.inj back
          exact congrArg some same
        have isBlank := blank first (front ▸ List.mem_append_right _ List.mem_cons_self)
        rw [isTrimmed.1 first starts] at isBlank
        cases isBlank
  · exact ⟨gap, right, by rw [List.append_assoc, back]⟩

/-- Trimming leaves the occurrences of what is trimmed itself. -/
theorem infix_trimmed_iff (filled : wanted ≠ []) (isTrimmed : IsTrimmed wanted)
    (text : List Char) : wanted <:+: trimmed text ↔ wanted <:+: text := by
  obtain ⟨before, after, whole, blankBefore, blankAfter⟩ := exists_trimmed text
  constructor
  · intro inside
    rw [whole]
    exact inside.trans (List.infix_append _ _ _)
  · intro found
    rw [whole, List.append_assoc] at found
    have behind := infix_of_infix_blanks filled isTrimmed blankBefore found
    -- The blank characters at the end are those at the front of the reversed text.
    have backwards : wanted.reverse <:+: after.reverse ++ (trimmed text).reverse := by
      rw [← List.reverse_append]
      exact List.reverse_infix.mpr behind
    have blankBack : AllBlank after.reverse := fun character member =>
      blankAfter character (List.mem_reverse.mp member)
    have reversedFilled : wanted.reverse ≠ [] := by
      rwa [Ne, List.reverse_eq_nil_iff]
    exact List.reverse_infix.mp
      (infix_of_infix_blanks reversedFilled isTrimmed.reverse blankBack backwards)

end IssueSync.Text
