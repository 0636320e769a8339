import IssueSync.Proofs.Placeholder.Search

/-! # Texts divided by their placeholders

A list of occurrences divides a text when the text is a gap, the first
occurrence, a gap, and so on up to a last gap, where each occurrence is written
as the template writes its identifier, ends at the nearest closing delimiter,
and no placeholder begins inside a gap. A text has exactly one division, the
one that the search finds (`Template.divides_iff_eq_occurrences`).
-/

namespace IssueSync

namespace Template

/-- The occurrences divide the text into gaps and placeholders. -/
inductive Divides (template : Template) : List Char → List Occurrence → Prop where
  /-- The last gap. -/
  | gap {text : List Char}
      (clear : ClearGap template.opening.toList template.closing.toList text []) :
      Divides template text []
  /-- A gap, a placeholder and the rest of the text. -/
  | placeholder {gap rest : List Char} {first : Occurrence} {others : List Occurrence}
      (clear : ClearGap template.opening.toList template.closing.toList gap
        (first.text.toList ++ rest))
      (written : first.text = template.placeholder first.id)
      (oneLine : '\n' ∉ first.id.toList)
      (nearest : EndsNearest template.closing.toList first.id.toList)
      (more : Divides template rest others) :
      Divides template (gap ++ (first.text.toList ++ rest)) (first :: others)

/-- The occurrence of an identifier. -/
def occurrenceOf (template : Template) (id : List Char) : Occurrence :=
  ⟨template.placeholder (String.ofList id), String.ofList id⟩

/-- The occurrences that the search finds in a text. -/
def occurrencesIn (template : Template) (text : List Char) : List Occurrence :=
  (placeholderIds template.opening.toList template.closing.toList text).map template.occurrenceOf

/-- The placeholders of a template are those in its text. -/
theorem occurrencesIn_text (template : Template) :
    template.occurrencesIn template.text.toList = template.occurrences := rfl

variable {template : Template}

@[simp]
theorem toList_placeholder (template : Template) (id : String) :
    (template.placeholder id).toList =
      template.opening.toList ++ id.toList ++ template.closing.toList := by
  simp [placeholder]

theorem toList_occurrenceOf_text (template : Template) (id : List Char) :
    (template.occurrenceOf id).text.toList =
      template.opening.toList ++ id ++ template.closing.toList := by
  simp [occurrenceOf]

/-- A character at which no placeholder begins is passed over. -/
theorem Divides.cons {first : Char} {tail : List Char} {occurrences : List Occurrence}
    (absent : ¬ PlaceholderBegins template.opening.toList template.closing.toList (first :: tail))
    (divides : template.Divides tail occurrences) :
    template.Divides (first :: tail) occurrences := by
  -- The character joins the first gap.
  cases divides with
  | gap clear =>
      refine .gap fun offset below => ?_
      cases offset with
      | zero => simpa using absent
      | succ offset => exact clear offset (Nat.lt_of_succ_lt_succ below)
  | placeholder clear written oneLine nearest more =>
      rw [← List.cons_append]
      refine .placeholder (fun offset below => ?_) written oneLine nearest more
      cases offset with
      | zero => simpa using absent
      | succ offset => exact clear offset (Nat.lt_of_succ_lt_succ below)

/-- A placeholder at the front, with an empty gap before it. -/
theorem Divides.next {id rest : List Char} {others : List Occurrence} (oneLine : '\n' ∉ id)
    (nearest : EndsNearest template.closing.toList id) (more : template.Divides rest others) :
    template.Divides (template.opening.toList ++ id ++ template.closing.toList ++ rest)
      (template.occurrenceOf id :: others) := by
  have clear : ClearGap template.opening.toList template.closing.toList []
      ((template.occurrenceOf id).text.toList ++ rest) := by
    intro offset below
    exact absurd below (Nat.not_lt_zero offset)
  have divides := Divides.placeholder clear rfl (by simpa [occurrenceOf] using oneLine)
    (by simpa [occurrenceOf] using nearest) more
  rwa [List.nil_append, toList_occurrenceOf_text] at divides

/-- The search finds a division. -/
theorem divides_occurrencesIn (delimited : template.opening.toList ≠ [] ∨
    template.closing.toList ≠ []) (text : List Char) :
    template.Divides text (template.occurrencesIn text) := by
  induction size : text.length using Nat.strongRecOn generalizing text with
  | ind size ih =>
      subst size
      cases read : readPlaceholder? template.opening.toList template.closing.toList text with
      | none =>
          have absent := readPlaceholder?_eq_none_iff.mp read
          cases text with
          | nil =>
              rw [occurrencesIn, placeholderIds_nil delimited]
              exact .gap fun offset below => absurd below (Nat.not_lt_zero offset)
          | cons first tail =>
              rw [occurrencesIn, placeholderIds_skip absent]
              exact (ih tail.length (Nat.lt_succ_self _) tail rfl).cons absent
      | some found =>
          obtain ⟨id, rest⟩ := found
          obtain ⟨rfl, oneLine, nearest⟩ := readPlaceholder?_eq_some_iff.mp read
          rw [occurrencesIn, placeholderIds_placeholder delimited oneLine nearest, List.map_cons]
          have shorter : rest.length <
              (template.opening.toList ++ id ++ template.closing.toList ++ rest).length := by
            have := length_placeholder_pos id delimited
            rw [List.length_append]
            omega
          exact .next oneLine nearest (ih _ shorter rest rfl)

/-- There is no other division than the one that the search finds. -/
theorem Divides.eq_occurrencesIn (delimited : template.opening.toList ≠ [] ∨
    template.closing.toList ≠ []) {text : List Char} {occurrences : List Occurrence}
    (divides : template.Divides text occurrences) :
    occurrences = template.occurrencesIn text := by
  induction divides with
  | @gap text clear =>
      have passed := placeholderIds_gap clear
      rw [List.append_nil] at passed
      rw [occurrencesIn, passed, placeholderIds_nil delimited, List.map_nil]
  | @placeholder gap rest first others clear written oneLine nearest _ ih =>
      have same : template.occurrenceOf first.id.toList = first := by
        rw [occurrenceOf, String.ofList_toList, ← written]
      rw [occurrencesIn, placeholderIds_gap clear, written, toList_placeholder,
        placeholderIds_placeholder delimited oneLine nearest, List.map_cons, same, ih]
      rfl

/-- A text that is written as one placeholder holds just that one. -/
theorem occurrencesIn_placeholder (delimited : template.opening.toList ≠ [] ∨
    template.closing.toList ≠ []) {id : String} (oneLine : '\n' ∉ id.toList)
    (nearest : EndsNearest template.closing.toList id.toList) :
    template.occurrencesIn (template.placeholder id).toList = [⟨template.placeholder id, id⟩] := by
  have alone : placeholderIds template.opening.toList template.closing.toList
      (template.opening.toList ++ id.toList ++ template.closing.toList ++ []) =
        id.toList :: placeholderIds template.opening.toList template.closing.toList [] :=
    placeholderIds_placeholder delimited oneLine nearest
  rw [List.append_nil, placeholderIds_nil delimited] at alone
  rw [occurrencesIn, toList_placeholder, alone, List.map_singleton, occurrenceOf,
    String.ofList_toList]

/-- **One division.** Unless both delimiters are empty, the occurrences that the
search finds in a template text are the only ones that divide it: each is
written as the template writes its identifier, on one line and up to the
nearest closing delimiter, and no placeholder begins between them. -/
theorem divides_iff_eq_occurrences (template : Template) (occurrences : List Occurrence)
    (delimited : ¬ (template.opening = "" ∧ template.closing = "")) :
    template.Divides template.text.toList occurrences ↔ occurrences = template.occurrences := by
  have filled : template.opening.toList ≠ [] ∨ template.closing.toList ≠ [] := by
    rcases Decidable.not_and_iff_not_or_not.mp delimited with opens | closes
    · exact .inl (by simpa using opens)
    · exact .inr (by simpa using closes)
  rw [← occurrencesIn_text]
  constructor
  · exact Divides.eq_occurrencesIn filled
  · rintro rfl
    exact divides_occurrencesIn filled template.text.toList

/-- Doubled delimiters: an opening one without a closing one on its line begins
no placeholder, and the second half of a delimiter begins none either. -/
theorem divides_doubled_delimiters :
    ¬ ("%%" = "" ∧ "%%" = "") ∧
      ({ text := "x%%a\n%%b%%%%c%%", opening := "%%", closing := "%%" } : Template).Divides
        "x%%a\n%%b%%%%c%%".toList [⟨"%%b%%", "b"⟩, ⟨"%%c%%", "c"⟩] :=
  ⟨by decide, (divides_iff_eq_occurrences
    { text := "x%%a\n%%b%%%%c%%", opening := "%%", closing := "%%" }
    [⟨"%%b%%", "b"⟩, ⟨"%%c%%", "c"⟩] (by decide)).mpr (by decide +kernel)⟩

end Template

end IssueSync
