import IssueSync.Proofs.Xml.Escape
import IssueSync.Proofs.Xml.SoundPieces

/-! # Reading escaped texts

Each character of an escaped text is read as itself, some of them through a
reference (`resolve?_escape`). What references name is kept, and the other
characters are normalized: a value keeps its characters when its only white
space are spaces (`valueAgain_eq_iff`), a text when none of its carriage returns
comes under the rules for line ends (`textAgain_eq_iff`).
-/

namespace IssueSync.Xml

/-- Whether a character is written as a reference. -/
def isReferenced (position : Position) (character : Char) : Bool :=
  character == '&' || character == '<' || character == '>' ||
    character == '"' && position == .insideQuotes

/-- A character as it is read from an escaped text. -/
def asEscaped (position : Position) (character : Char) : Written :=
  if isReferenced position character then .referenced character else .literal character

/-- What is read of a text that was escaped between tags. -/
def textAgain (text : String) : String :=
  String.ofList (normalizeLines false (text.toList.map (asEscaped .betweenTags)))

/-- What is read of a value that was escaped inside quotes. -/
def valueAgain (value : String) : String :=
  String.ofList (normalizeSpaces (value.toList.map (asEscaped .insideQuotes)))

theorem resolve?_of_ne {character : Char} (different : character ≠ '&') (rest : List Char) :
    resolve? none (character :: rest) = (resolve? none rest).map (.literal character :: ·) := by
  rw [resolve?.eq_def]
  exact if_neg different

/-- A character is resolved from its escaped form, and is known to come from a reference if
it was one. -/
theorem resolve?_escapeCharacter (position : Position) (character : Char) (rest : List Char) :
    resolve? none (escapeCharacter position character ++ rest) =
      (resolve? none rest).map (asEscaped position character :: ·) := by
  unfold escapeCharacter
  split
  · rfl
  · rfl
  · rfl
  · cases position with
    | betweenTags => exact resolve?_of_ne (by decide) rest
    | insideQuotes => rfl
  · next ampersand left right quote =>
      have literal : isReferenced position character = false := by
        simpa [isReferenced] using ⟨⟨⟨ampersand, left⟩, right⟩, fun same => (quote same).elim⟩
      rw [asEscaped, literal]
      exact resolve?_of_ne ampersand rest

/-- A text is resolved from its escaped form. -/
theorem resolve?_escape (position : Position) (text : String) :
    resolve? none (escape position text).toList =
      some (text.toList.map (asEscaped position)) := by
  rw [escape, String.toList_ofList]
  induction text.toList with
  | nil => rfl
  | cons first rest ih =>
      rw [List.flatMap_cons, resolve?_escapeCharacter, ih]
      rfl

/-- What a text between tags is read as. -/
theorem textOf?_escape (text : String) :
    textOf? (escape .betweenTags text).toList = some (textAgain text) := by
  rw [textOf?, resolve?_escape]
  rfl

/-- What a value between quotes is read as. -/
theorem valueOf?_escape (value : String) :
    valueOf? (escape .insideQuotes value).toList = some (valueAgain value) := by
  rw [valueOf?, resolve?_escape]
  rfl

/-- Escaping brings in no forbidden character. -/
theorem allXml_escape {position : Position} {text : String} (allowed : AllXml text.toList) :
    AllXml (escape position text).toList := by
  intro character member
  rcases (mem_escape member).2.2 with inText | ⟨reference, listed, part⟩
  · exact allowed character inText
  · have clear : ∀ reference ∈ references, reference.all isXmlChar = true := by
      decide
    exact List.all_eq_true.mp (clear reference listed) character part

/-! ### Values -/

/-- The only white space of the text are spaces. -/
def SpacesOnly (text : String) : Prop :=
  ∀ character ∈ text.toList, isSpace character = true → character = ' '

instance (text : String) : Decidable (SpacesOnly text) :=
  List.decidableBAll _ _

/-- White space is never written as a reference. -/
theorem asEscaped_of_isSpace (position : Position) {character : Char}
    (space : isSpace character = true) : asEscaped position character = .literal character := by
  simp only [isSpace, Bool.or_eq_true, beq_iff_eq] at space
  rcases space with ((rfl | rfl) | rfl) | rfl
  · rfl
  · rfl
  · rfl
  · rfl

/-- A character from a reference stays as it is. -/
theorem normalizeSpaces_referenced {first : Char} (referenced : isReferenced .insideQuotes first)
    (rest : List Char) :
    normalizeSpaces ((first :: rest).map (asEscaped .insideQuotes)) =
      first :: normalizeSpaces (rest.map (asEscaped .insideQuotes)) := by
  rw [List.map_cons, asEscaped, if_pos referenced, normalizeSpaces]

/-- White space becomes a space, except that nothing comes of a carriage return
before a line feed. -/
theorem normalizeSpaces_literal {first : Char} (literal : ¬ isReferenced .insideQuotes first)
    (rest : List Char) :
    normalizeSpaces ((first :: rest).map (asEscaped .insideQuotes)) =
      if first = '\r' ∧ rest.head? = some '\n' then
        normalizeSpaces (rest.map (asEscaped .insideQuotes))
      else (if isSpace first then ' ' else first) ::
        normalizeSpaces (rest.map (asEscaped .insideQuotes)) := by
  have followed : (rest.map (asEscaped .insideQuotes)).head? = some (.literal '\n') ↔
      rest.head? = some '\n' := by
    cases rest with
    | nil => simp
    | cons next more =>
        rw [List.map_cons, List.head?_cons, List.head?_cons, Option.some.injEq, Option.some.injEq]
        constructor
        · intro same
          unfold asEscaped at same
          split at same
          · cases same
          · exact Written.literal.inj same
        · rintro rfl
          rfl
  rw [List.map_cons, asEscaped, if_neg literal, normalizeSpaces]
  simp only [followed]

/-- No white space but spaces comes out of the normalization. -/
theorem eq_space_of_mem_normalizeSpaces {text : List Char} {character : Char}
    (member : character ∈ normalizeSpaces (text.map (asEscaped .insideQuotes)))
    (space : isSpace character = true) : character = ' ' := by
  induction text with
  | nil => cases member
  | cons first rest ih =>
      by_cases referenced : isReferenced .insideQuotes first
      · rw [normalizeSpaces_referenced referenced] at member
        rcases List.mem_cons.mp member with rfl | later
        · have literal := asEscaped_of_isSpace .insideQuotes space
          rw [asEscaped, if_pos referenced] at literal
          cases literal
        · exact ih later
      · rw [normalizeSpaces_literal referenced] at member
        split at member
        · exact ih member
        · rcases List.mem_cons.mp member with same | later
          · split at same
            · exact same
            · next other => exact absurd (same ▸ space) other
          · exact ih later

/-- White space leaves a space behind. -/
theorem space_mem_normalizeSpaces {text : List Char} {character : Char} (member : character ∈ text)
    (space : isSpace character = true) :
    ' ' ∈ normalizeSpaces (text.map (asEscaped .insideQuotes)) := by
  induction text with
  | nil => cases member
  | cons first rest ih =>
      by_cases referenced : isReferenced .insideQuotes first
      · rw [normalizeSpaces_referenced referenced]
        rcases List.mem_cons.mp member with rfl | later
        · have literal := asEscaped_of_isSpace .insideQuotes space
          rw [asEscaped, if_pos referenced] at literal
          cases literal
        · exact List.mem_cons_of_mem _ (ih later)
      · rw [normalizeSpaces_literal referenced]
        split
        · next joined =>
            -- The line feed after the carriage return gives the space.
            obtain ⟨more, rfl⟩ := List.head?_eq_some_iff.mp joined.2
            have lineFeed : ¬ ('\n' = '\r' ∧ more.head? = some '\n') := fun both =>
              absurd both.1 (by decide)
            rw [normalizeSpaces_literal (by decide), if_neg lineFeed, if_pos (by decide)]
            exact List.mem_cons_self
        · rcases List.mem_cons.mp member with rfl | later
          · rw [if_pos space]
            exact List.mem_cons_self
          · exact List.mem_cons_of_mem _ (ih later)

/-- A value with no white space but spaces is read back. -/
theorem normalizeSpaces_of_spacesOnly {text : List Char}
    (spaces : ∀ character ∈ text, isSpace character = true → character = ' ') :
    normalizeSpaces (text.map (asEscaped .insideQuotes)) = text := by
  induction text with
  | nil => rfl
  | cons first rest ih =>
      obtain ⟨head, tail⟩ := List.forall_mem_cons.mp spaces
      by_cases referenced : isReferenced .insideQuotes first
      · rw [normalizeSpaces_referenced referenced, ih tail]
      · have notReturn : first ≠ '\r' := by
          rintro rfl
          exact absurd (head (by decide)) (by decide)
        have kept : (if isSpace first then ' ' else first) = first := by
          split
          · next space => exact (head space).symm
          · rfl
        rw [normalizeSpaces_literal referenced, if_neg fun both => notReturn both.1, kept, ih tail]

/-- A value is read as it was when it holds no tabs and no ends of lines. -/
theorem valueAgain_eq_iff {value : String} : valueAgain value = value ↔ SpacesOnly value := by
  rw [valueAgain, ← String.toList_inj, String.toList_ofList]
  constructor
  · intro same character member space
    rw [← same] at member
    exact eq_space_of_mem_normalizeSpaces member space
  · exact normalizeSpaces_of_spacesOnly

/-- A value without white space is read only from itself. -/
theorem eq_of_valueAgain_eq {value wanted : String} (same : valueAgain value = wanted)
    (noSpace : ' ' ∉ wanted.toList) : value = wanted := by
  have spaces : SpacesOnly value := by
    intro character member space
    have left := space_mem_normalizeSpaces member space
    rw [← same, valueAgain, String.toList_ofList] at noSpace
    exact absurd left noSpace
  rw [← valueAgain_eq_iff.mpr spaces, same]

/-! ### Texts -/

/-- Every carriage return stands right before a character that is written as a
reference, or ends the text right after one. -/
def ReturnsKept (afterReference : Bool) : List Char → Prop
  | [] => True
  | [last] => last = '\r' → afterReference = true
  | first :: next :: rest =>
      (first = '\r' → isReferenced .betweenTags next = true) ∧
        ReturnsKept (isReferenced .betweenTags first) (next :: rest)

instance decidableReturnsKept (afterReference : Bool) :
    (text : List Char) → Decidable (ReturnsKept afterReference text)
  | [] => .isTrue trivial
  | [last] => inferInstanceAs (Decidable (last = '\r' → afterReference = true))
  | first :: next :: rest =>
      have := decidableReturnsKept (isReferenced .betweenTags first) (next :: rest)
      inferInstanceAs (Decidable (_ ∧ _))

/-- A text is read back exactly when it keeps its carriage returns. -/
theorem normalizeLines_eq_iff {text : List Char} {afterReference : Bool} :
    normalizeLines afterReference (text.map (asEscaped .betweenTags)) = text ↔
      ReturnsKept afterReference text := by
  induction text generalizing afterReference with
  | nil => simp [ReturnsKept, normalizeLines]
  | cons first rest ih =>
      by_cases referenced : isReferenced .betweenTags first = true
      · have notReturn : first ≠ '\r' := by
          rintro rfl
          cases referenced
        rw [List.map_cons, asEscaped, if_pos referenced, normalizeLines, List.cons.injEq, ih]
        cases rest with
        | nil => simp [ReturnsKept, notReturn]
        | cons next more => simp [ReturnsKept, notReturn, referenced]
      · have literal : asEscaped .betweenTags first = .literal first := if_neg referenced
        cases rest with
        | nil =>
            rw [List.map_cons, literal, List.map_nil, normalizeLines, ReturnsKept]
            by_cases same : first = '\r'
            · subst same
              cases afterReference with
              | true => simp
              | false => simp
            · simp [same]
        | cons next more =>
            have plain : isReferenced .betweenTags first = false := Bool.not_eq_true _ ▸ referenced
            rw [ReturnsKept, plain, ← ih, List.map_cons, List.map_cons, literal]
            by_cases nextReferenced : isReferenced .betweenTags next = true
            · have read : asEscaped .betweenTags next = .referenced next := if_pos nextReferenced
              simp [read, normalizeLines, nextReferenced]
            · rw [asEscaped, if_neg nextReferenced, normalizeLines]
              by_cases same : first = '\r'
              · -- A line feed comes of the carriage return in any case.
                subst same
                rw [if_pos rfl]
                split
                · simp [nextReferenced]
                · simp [nextReferenced]
              · rw [if_neg same, List.cons.injEq]
                simp [same]

/-- A text is read as it was when its carriage returns are kept. -/
theorem textAgain_eq_iff {text : String} :
    textAgain text = text ↔ ReturnsKept false text.toList := by
  rw [textAgain, ← String.toList_inj, String.toList_ofList]
  exact normalizeLines_eq_iff

end IssueSync.Xml
