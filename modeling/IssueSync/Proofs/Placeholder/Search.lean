import IssueSync.Rule.Placeholder

/-! # Where the search finds placeholders

Reading an identifier stops at the nearest closing delimiter
(`readIdentifier?_eq_some_iff`) and fails only where no identifier on one line
reaches a closing delimiter (`readIdentifier?_eq_none_iff`). The search passes
over every place where no placeholder begins (`placeholderIds_gap`) and takes
the placeholder at the place it stands at (`placeholderIds_placeholder`).
-/

namespace IssueSync

open Text (afterStart? afterStart?_eq_some_iff afterStart?_eq_none_iff)

/-- A placeholder begins at the front of the text: the opening delimiter,
characters other than line feeds and the closing delimiter. -/
def PlaceholderBegins (opening closing text : List Char) : Prop :=
  ∃ id, '\n' ∉ id ∧ opening ++ id ++ closing <+: text

/-- No occurrence of the closing delimiter begins inside the identifier. -/
def EndsNearest (closing id : List Char) : Prop :=
  ∀ offset < id.length, ¬ closing <+: (id ++ closing).drop offset

instance (closing id : List Char) : Decidable (EndsNearest closing id) :=
  inferInstanceAs (Decidable (∀ offset < id.length, _))

/-- No placeholder begins inside a gap with `rest` behind it. -/
def ClearGap (opening closing gap rest : List Char) : Prop :=
  ∀ offset < gap.length, ¬ PlaceholderBegins opening closing ((gap ++ rest).drop offset)

variable {opening closing text id gap rest : List Char}

@[simp]
theorem endsNearest_nil : EndsNearest closing [] := by
  intro offset below
  exact absurd below (Nat.not_lt_zero offset)

/-- The closing delimiter may begin neither at the first character nor at a later one. -/
theorem endsNearest_cons {first : Char} :
    EndsNearest closing (first :: id) ↔
      ¬ closing <+: first :: (id ++ closing) ∧ EndsNearest closing id := by
  constructor
  · intro nearest
    refine ⟨nearest 0 (Nat.zero_lt_succ _), fun offset below => ?_⟩
    exact nearest (offset + 1) (Nat.succ_lt_succ below)
  · rintro ⟨head, tail⟩ offset below
    cases offset with
    | zero => exact head
    | succ offset => exact tail offset (Nat.lt_of_succ_lt_succ below)

/-- A closing delimiter ends an identifier without its first character. -/
theorem endsNearest_of_not_mem {character : Char} {more : List Char} (absent : character ∉ id) :
    EndsNearest (character :: more) id := by
  induction id with
  | nil => exact endsNearest_nil
  | cons first rest ih =>
      refine endsNearest_cons.mpr ⟨fun starts => ?_, ih (List.not_mem_of_not_mem_cons absent)⟩
      obtain ⟨same, -⟩ := List.cons_prefix_cons.mp starts
      exact absent (same ▸ List.mem_cons_self)

/-- Inside a longer text it is enough to look at the identifier and the closing
delimiter behind it. -/
theorem prefix_append_closing (starts : closing <+: id ++ closing ++ rest) :
    closing <+: id ++ closing :=
  List.prefix_of_prefix_length_le starts (List.prefix_append _ _) (by simp)

/-- What is read is an identifier on one line, up to the nearest closing
delimiter. -/
theorem readIdentifier?_eq_some_iff {after : List Char} :
    readIdentifier? closing text = some (id, after) ↔
      text = id ++ closing ++ after ∧ '\n' ∉ id ∧ EndsNearest closing id := by
  induction text generalizing id with
  | nil =>
      simp only [readIdentifier?, List.isEmpty_iff]
      constructor
      · intro read
        split at read
        · next blank => cases read; simp [blank]
        · cases read
      · rintro ⟨same, -, -⟩
        obtain ⟨front, rfl⟩ := List.append_eq_nil_iff.mp same.symm
        obtain ⟨rfl, rfl⟩ := List.append_eq_nil_iff.mp front
        rfl
  | cons first tail ih =>
      simp only [readIdentifier?]
      cases starts : afterStart? closing (first :: tail) with
      | some found =>
          have split := afterStart?_eq_some_iff.mp starts
          constructor
          · intro read
            cases read
            exact ⟨by simpa using split, by simp, endsNearest_nil⟩
          · rintro ⟨same, -, nearest⟩
            cases id with
            | nil =>
                rw [split, List.nil_append, List.append_cancel_left_eq] at same
                rw [same]
            | cons head more =>
                have starts : closing <+: head :: more ++ closing ++ after :=
                  ⟨found, by rw [← same, split]⟩
                have early := prefix_append_closing starts
                exact absurd early (nearest 0 (Nat.zero_lt_succ _))
      | none =>
          have absent := afterStart?_eq_none_iff.mp starts
          by_cases lineFeed : first = '\n'
          · simp only [lineFeed, ↓reduceIte, false_iff, reduceCtorEq]
            rintro ⟨same, oneLine, -⟩
            cases id with
            | nil => exact absent ⟨after, by rw [lineFeed, same, List.nil_append]⟩
            | cons head more =>
                obtain ⟨rfl, -⟩ := List.cons.inj same
                exact oneLine List.mem_cons_self
          · simp only [lineFeed, ↓reduceIte, Option.map_eq_some_iff, Prod.exists, Prod.mk.injEq]
            constructor
            · rintro ⟨more, found, read, rfl, rfl⟩
              obtain ⟨same, oneLine, nearest⟩ := ih.mp read
              refine ⟨by simp [same], by simp [oneLine, Ne.symm lineFeed], ?_⟩
              refine endsNearest_cons.mpr ⟨fun early => absent ?_, nearest⟩
              rw [same, List.append_assoc]
              exact early.trans ⟨found, by simp⟩
            · rintro ⟨same, oneLine, nearest⟩
              cases id with
              | nil => exact absurd ⟨after, same.symm⟩ absent
              | cons head more =>
                  obtain ⟨rfl, tailSame⟩ := List.cons.inj same
                  have read := ih.mpr ⟨tailSame, List.not_mem_of_not_mem_cons oneLine,
                    (endsNearest_cons.mp nearest).2⟩
                  exact ⟨more, after, read, rfl, rfl⟩

/-- Nothing is read exactly where no identifier on one line reaches a closing
delimiter. -/
theorem readIdentifier?_eq_none_iff :
    readIdentifier? closing text = none ↔ ∀ id, '\n' ∉ id → ¬ id ++ closing <+: text := by
  constructor
  · intro missing id oneLine
    induction text generalizing id with
    | nil =>
        intro starts
        obtain ⟨-, blank⟩ := List.append_eq_nil_iff.mp (List.prefix_nil.mp starts)
        simp [readIdentifier?, blank] at missing
    | cons first tail ih =>
        intro starts
        simp only [readIdentifier?] at missing
        split at missing
        · cases missing
        · next absent =>
            cases id with
            | nil => exact afterStart?_eq_none_iff.mp absent starts
            | cons head more =>
                obtain ⟨rfl, tailStarts⟩ := List.cons_prefix_cons.mp starts
                rw [if_neg (Ne.symm (List.ne_of_not_mem_cons oneLine)), Option.map_eq_none_iff]
                  at missing
                exact ih missing more (List.not_mem_of_not_mem_cons oneLine) tailStarts
  · intro absent
    rw [Option.eq_none_iff_forall_ne_some]
    rintro ⟨id, after⟩ read
    obtain ⟨same, oneLine, -⟩ := readIdentifier?_eq_some_iff.mp read
    exact absent id oneLine ⟨after, same.symm⟩

/-- What is read at a position: the identifier goes up to the nearest closing
delimiter, on one line. -/
theorem readPlaceholder?_eq_some_iff {after : List Char} :
    readPlaceholder? opening closing text = some (id, after) ↔
      text = opening ++ id ++ closing ++ after ∧ '\n' ∉ id ∧ EndsNearest closing id := by
  simp only [readPlaceholder?, Option.bind_eq_some_iff, afterStart?_eq_some_iff,
    readIdentifier?_eq_some_iff]
  constructor
  · rintro ⟨body, rfl, rfl, facts⟩
    exact ⟨by simp, facts⟩
  · rintro ⟨rfl, facts⟩
    exact ⟨id ++ closing ++ after, by simp, rfl, facts⟩

/-- Nothing is read where no placeholder begins. -/
theorem readPlaceholder?_eq_none_iff :
    readPlaceholder? opening closing text = none ↔
      ¬ PlaceholderBegins opening closing text := by
  simp only [readPlaceholder?, Option.bind_eq_none_iff, afterStart?_eq_some_iff,
    readIdentifier?_eq_none_iff]
  constructor
  · rintro absent ⟨id, oneLine, after, same⟩
    exact absent (id ++ closing ++ after) (by simpa using same.symm) id oneLine ⟨after, rfl⟩
  · rintro absent body rfl id oneLine ⟨after, same⟩
    exact absent ⟨id, oneLine, after, by simp [← same]⟩

/-! ### Steps of the search -/

theorem length_placeholder_pos (id : List Char) (delimited : opening ≠ [] ∨ closing ≠ []) :
    0 < (opening ++ id ++ closing).length := by
  rw [List.length_append, List.length_append]
  rcases delimited with opens | closes
  · have := List.length_pos_iff.mpr opens
    omega
  · have := List.length_pos_iff.mpr closes
    omega

/-- There are no placeholders in the empty text. -/
theorem placeholderIds_nil (delimited : opening ≠ [] ∨ closing ≠ []) :
    placeholderIds opening closing [] = [] := by
  have absent : readPlaceholder? opening closing [] = none := by
    rw [readPlaceholder?_eq_none_iff]
    rintro ⟨id, -, starts⟩
    have blank := List.append_eq_nil_iff.mp (List.prefix_nil.mp starts)
    obtain ⟨opens, -⟩ := List.append_eq_nil_iff.mp blank.1
    exact delimited.elim (fun filled => filled opens) fun filled => filled blank.2
  rw [placeholderIds.eq_def, absent]

/-- A character at which no placeholder begins is passed over. -/
theorem placeholderIds_skip {first : Char} {tail : List Char}
    (absent : ¬ PlaceholderBegins opening closing (first :: tail)) :
    placeholderIds opening closing (first :: tail) = placeholderIds opening closing tail := by
  rw [placeholderIds.eq_def, readPlaceholder?_eq_none_iff.mpr absent]

/-- The search passes over a gap. -/
theorem placeholderIds_gap (clear : ClearGap opening closing gap rest) :
    placeholderIds opening closing (gap ++ rest) = placeholderIds opening closing rest := by
  induction gap with
  | nil => rfl
  | cons first gap ih =>
      have head : ¬ PlaceholderBegins opening closing (first :: (gap ++ rest)) :=
        clear 0 (Nat.zero_lt_succ _)
      rw [List.cons_append, placeholderIds_skip head]
      exact ih fun offset below => clear (offset + 1) (Nat.succ_lt_succ below)

/-- No placeholder is found when a delimiter has a character that the text does
not have. -/
theorem placeholderIds_eq_nil {character : Char} (used : character ∈ opening ∨ character ∈ closing)
    (absent : character ∉ text) : placeholderIds opening closing text = [] := by
  have clear : ClearGap opening closing text [] := by
    rintro offset - ⟨id, -, starts⟩
    rw [List.append_nil] at starts
    have inPlaceholder : character ∈ opening ++ id ++ closing := by
      rcases used with opens | closes
      · simp [opens]
      · simp [closes]
    exact absent (List.mem_of_mem_drop (starts.mem inPlaceholder))
  have passed := placeholderIds_gap clear
  rw [List.append_nil] at passed
  rw [passed]
  exact placeholderIds_nil (used.imp List.ne_nil_of_mem List.ne_nil_of_mem)

/-- The search takes the placeholder it stands at and goes on behind it. -/
theorem placeholderIds_placeholder (delimited : opening ≠ [] ∨ closing ≠ [])
    (oneLine : '\n' ∉ id) (nearest : EndsNearest closing id) :
    placeholderIds opening closing (opening ++ id ++ closing ++ rest) =
      id :: placeholderIds opening closing rest := by
  have read : readPlaceholder? opening closing (opening ++ id ++ closing ++ rest) =
      some (id, rest) := readPlaceholder?_eq_some_iff.mpr ⟨rfl, oneLine, nearest⟩
  have filled := length_placeholder_pos id delimited
  rw [placeholderIds.eq_def, read]
  cases whole : opening ++ id ++ closing ++ rest with
  | nil =>
      rw [List.append_eq_nil_iff.mp whole |>.1] at filled
      exact absurd filled (Nat.lt_irrefl 0)
  | cons first tail =>
      have lengths := congrArg List.length whole
      rw [List.length_append, List.length_cons] at lengths
      exact if_pos (by omega)

end IssueSync
