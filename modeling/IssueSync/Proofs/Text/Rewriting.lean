/-! # Texts that are rewritten a character at a time

A change of texts that turns what is written of a character in front of any text
into something else in front of the changed text does so with all characters of a
text that is written like that (`flatMap_of_append`, `flatMap_of_cons`). A character
in such a text is a character of what is written of one of its characters
(`exists_of_flatMap_eq`), the last one of what is written of its last character
(`getLast?_flatMap_of_ne_nil`).
-/

namespace IssueSync.Text

variable {part other : Char → List Char} {change : List Char → List Char}

/-- A rewriting that takes each part to another one takes the text to the text of those. -/
theorem flatMap_of_append (nothing : change [] = [])
    (each : ∀ character rest, change (part character ++ rest) = other character ++ change rest)
    (text : List Char) : change (text.flatMap part) = text.flatMap other := by
  induction text with
  | nil => exact nothing
  | cons first rest ih => rw [List.flatMap_cons, each, ih, List.flatMap_cons]

/-- A change that takes back what is written of each character takes back the text. -/
theorem flatMap_of_cons (nothing : change [] = [])
    (each : ∀ character rest, change (part character ++ rest) = character :: change rest)
    (text : List Char) : change (text.flatMap part) = text := by
  have rewritten : change (text.flatMap part) = text.flatMap fun character => [character] :=
    flatMap_of_append nothing each text
  rw [rewritten, List.flatMap_singleton']

/-- A mark in a text that is written a character at a time belongs to the part of
one of them. -/
theorem exists_of_flatMap_eq {text before after : List Char} {mark : Char}
    (whole : text.flatMap part = before ++ mark :: after) :
    ∃ character inner rest front back, part character = inner ++ mark :: rest ∧
      before = front ++ inner ∧ after = rest ++ back := by
  induction text generalizing before with
  | nil => simp at whole
  | cons first text ih =>
      rw [List.flatMap_cons] at whole
      rcases List.append_eq_append_iff.mp whole with
        ⟨passed, rfl, later⟩ | ⟨inner, found, later⟩
      · obtain ⟨character, inner, rest, front, back, found, rfl, rfl⟩ := ih later
        exact ⟨character, inner, rest, part first ++ front, back, found,
          (List.append_assoc _ _ _).symm, rfl⟩
      · cases inner with
        | nil =>
            obtain ⟨character, inner, rest, front, back, inside, none, rfl⟩ :=
              ih (show text.flatMap part = [] ++ mark :: after from later.symm)
            refine ⟨character, inner, rest, part first ++ front, back, inside, ?_, rfl⟩
            rw [List.append_assoc, ← none, found, List.append_nil, List.append_nil]
        | cons head rest =>
            cases later
            exact ⟨first, before, rest, [], text.flatMap part, found, rfl, rfl⟩

/-- Where every part has characters the text ends as its last part does. -/
theorem getLast?_flatMap_of_ne_nil (filled : ∀ character, part character ≠ []) (text : List Char) :
    (text.flatMap part).getLast? = text.getLast?.bind fun last => (part last).getLast? := by
  rcases List.eq_nil_or_concat text with rfl | ⟨front, last, rfl⟩
  · rfl
  · rw [List.concat_eq_append, List.flatMap_append, List.flatMap_singleton, List.getLast?_append,
      List.getLast?_concat, Option.bind_some, List.getLast?_eq_some_getLast (filled last),
      Option.some_or]

end IssueSync.Text
