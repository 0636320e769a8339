import IssueSync.Text.Search

/-! # Occurrences in divided texts

The searches find a text exactly when it occurs (`afterLast?_eq_none_iff`,
`beforeFirst_of_not_infix`). A text that does not have a certain character
cannot reach over it, so what is found in two texts with that character between
them is found in one of the two (`prefix_append_cons_iff`): the last occurrence
is in the second text if there is one there (`afterLast?_append_cons`), the
first one is not in a text without any (`beforeFirst_append_cons`), and the
numbers of occurrences add up (`occurrences_append_cons`).
-/

namespace IssueSync.Text

variable {wanted text rest first second : List Char} {separator : Char}

/-! ### What the searches find -/

theorem afterLast?_cons (character : Char) :
    afterLast? wanted (character :: rest) =
      (afterLast? wanted rest).or (afterStart? wanted (character :: rest)) := by
  rw [afterLast?]
  cases afterLast? wanted rest with
  | none => rfl
  | some after => rfl

/-- There is no last occurrence when there is none. -/
theorem afterLast?_eq_none_iff : afterLast? wanted text = none ↔ ¬ wanted <:+: text := by
  induction text with
  | nil =>
      rw [List.infix_nil, afterLast?]
      by_cases blank : wanted = []
      · simp [blank]
      · simp [blank]
  | cons character rest ih =>
      rw [afterLast?_cons, Option.or_eq_none_iff, ih, afterStart?_eq_none_iff,
        List.infix_cons_iff, not_or]
      exact And.comm

/-- Behind the last occurrence there is none. -/
theorem not_infix_of_afterLast? (filled : wanted ≠ [])
    (found : afterLast? wanted text = some rest) : ¬ wanted <:+: rest := by
  induction text with
  | nil =>
      rw [afterLast?, if_neg (by rwa [List.isEmpty_iff])] at found
      cases found
  | cons character tail ih =>
      rw [afterLast?_cons, Option.or_eq_some_iff] at found
      rcases found with later | ⟨none, starts⟩
      · exact ih later
      · intro again
        have whole := afterStart?_eq_some_iff.mp starts
        obtain ⟨head, more, rfl⟩ := List.exists_cons_of_ne_nil filled
        obtain ⟨-, tailIs⟩ := List.cons.inj whole
        have suffix : rest <:+ tail := ⟨more, tailIs.symm⟩
        exact afterLast?_eq_none_iff.mp none (again.trans suffix.isInfix)

/-- The occurrence at the end is the last one. -/
theorem afterLast?_append_self (filled : wanted ≠ []) (front : List Char) :
    afterLast? wanted (front ++ wanted) = some [] := by
  have whole : afterStart? wanted wanted = some [] :=
    afterStart?_eq_some_iff.mpr (List.append_nil wanted).symm
  induction front with
  | nil =>
      obtain ⟨head, more, rfl⟩ := List.exists_cons_of_ne_nil filled
      have tooShort : afterLast? (head :: more) more = none := by
        rw [afterLast?_eq_none_iff]
        intro inside
        have lengths := inside.length_le
        rw [List.length_cons] at lengths
        omega
      rw [List.nil_append, afterLast?_cons, tooShort, whole, Option.none_or]
  | cons character front ih => rw [List.cons_append, afterLast?_cons, ih, Option.some_or]

theorem beforeFirst_nil : beforeFirst wanted [] = [] := by
  unfold beforeFirst splitFirst?
  by_cases blank : wanted.isEmpty = true
  · rw [if_pos blank]
  · rw [if_neg blank]

theorem beforeFirst_cons (character : Char) :
    beforeFirst wanted (character :: rest) =
      if wanted <+: character :: rest then [] else character :: beforeFirst wanted rest := by
  unfold beforeFirst
  rw [splitFirst?]
  cases starts : afterStart? wanted (character :: rest) with
  | some after => rw [if_pos ⟨after, (afterStart?_eq_some_iff.mp starts).symm⟩]
  | none =>
      rw [if_neg (afterStart?_eq_none_iff.mp starts)]
      cases splitFirst? wanted rest with
      | none => rfl
      | some parts => rfl

/-- What stands before the first occurrence begins the text. -/
theorem beforeFirst_prefix (wanted text : List Char) : beforeFirst wanted text <+: text := by
  induction text with
  | nil => simp [beforeFirst_nil]
  | cons character rest ih =>
      rw [beforeFirst_cons]
      split
      · exact List.nil_prefix
      · exact List.cons_prefix_cons.mpr ⟨rfl, ih⟩

/-- Without an occurrence it is the whole text. -/
theorem beforeFirst_of_not_infix (absent : ¬ wanted <:+: text) :
    beforeFirst wanted text = text := by
  induction text with
  | nil => exact beforeFirst_nil
  | cons character rest ih =>
      rw [List.infix_cons_iff, not_or] at absent
      rw [beforeFirst_cons, if_neg absent.1, ih absent.2]

/-- Before the first occurrence there is none. -/
theorem not_infix_beforeFirst (filled : wanted ≠ []) (text : List Char) :
    ¬ wanted <:+: beforeFirst wanted text := by
  induction text with
  | nil => rwa [beforeFirst_nil, List.infix_nil]
  | cons character rest ih =>
      rw [beforeFirst_cons]
      split
      · rwa [List.infix_nil]
      · next absent =>
          rw [List.infix_cons_iff, not_or]
          refine ⟨fun starts => absent ?_, ih⟩
          have front : character :: beforeFirst wanted rest <+: character :: rest :=
            List.cons_prefix_cons.mpr ⟨rfl, beforeFirst_prefix wanted rest⟩
          exact starts.trans front

theorem beforeFirst_self_append (filled : wanted ≠ []) (rest : List Char) :
    beforeFirst wanted (wanted ++ rest) = [] := by
  obtain ⟨head, more, rfl⟩ := List.exists_cons_of_ne_nil filled
  have starts : head :: more <+: head :: (more ++ rest) := List.prefix_append (head :: more) rest
  rw [List.cons_append, beforeFirst_cons, if_pos starts]

/-! ### Over a character that the wanted text does not have -/

/-- What has no separator begins a text before the separator or not at all. -/
theorem prefix_append_cons_iff (absent : separator ∉ wanted) :
    wanted <+: first ++ separator :: second ↔ wanted <+: first := by
  constructor
  · rintro ⟨rest, whole⟩
    rcases List.append_eq_append_iff.mp whole with ⟨gap, front, -⟩ | ⟨gap, reached, back⟩
    · exact ⟨gap, front.symm⟩
    · cases gap with
      | nil =>
          rw [List.append_nil] at reached
          exact reached ▸ List.prefix_rfl
      | cons character more =>
          -- The wanted text would reach over the separator.
          obtain ⟨rfl, -⟩ := List.cons.inj back
          rw [reached] at absent
          exact absurd (List.mem_append_right _ List.mem_cons_self) absent
  · intro front
    exact front.trans (List.prefix_append _ _)

/-- The rest behind a start goes on over a separator. -/
theorem afterStart?_append_cons (absent : separator ∉ wanted) :
    afterStart? wanted (first ++ separator :: second) =
      (afterStart? wanted first).map (· ++ separator :: second) := by
  cases starts : afterStart? wanted first with
  | some rest =>
      have whole := afterStart?_eq_some_iff.mp starts
      rw [Option.map_some, afterStart?_eq_some_iff, whole, List.append_assoc]
  | none =>
      rw [Option.map_none, afterStart?_eq_none_iff, prefix_append_cons_iff absent]
      exact afterStart?_eq_none_iff.mp starts

/-- The last occurrence stands behind the separator, or else before it. -/
theorem afterLast?_append_cons (filled : wanted ≠ []) (absent : separator ∉ wanted) :
    afterLast? wanted (first ++ separator :: second) =
      (afterLast? wanted second).or ((afterLast? wanted first).map (· ++ separator :: second)) := by
  have nowhere : afterLast? wanted [] = none := by
    rwa [afterLast?_eq_none_iff, List.infix_nil]
  induction first with
  | nil =>
      have later : afterStart? wanted (separator :: second) = none := by
        rw [afterStart?_eq_none_iff, ← List.nil_append (separator :: second),
          prefix_append_cons_iff absent, List.prefix_nil]
        exact filled
      rw [List.nil_append, afterLast?_cons, later, nowhere]
      rfl
  | cons character first ih =>
      rw [List.cons_append, afterLast?_cons, ih, afterLast?_cons, ← List.cons_append,
        afterStart?_append_cons absent, Option.map_or, Option.or_assoc]

/-- An occurrence stands on one side of a separator. -/
theorem infix_append_cons_iff (filled : wanted ≠ []) (absent : separator ∉ wanted) :
    wanted <:+: first ++ separator :: second ↔ wanted <:+: first ∨ wanted <:+: second := by
  have nowhere : ¬ wanted <:+: first ++ separator :: second ↔
      ¬ wanted <:+: second ∧ ¬ wanted <:+: first := by
    rw [← afterLast?_eq_none_iff, afterLast?_append_cons filled absent, Option.or_eq_none_iff,
      Option.map_eq_none_iff, afterLast?_eq_none_iff, afterLast?_eq_none_iff]
  rw [← Decidable.not_iff_not, nowhere, not_or]
  exact And.comm

/-- The last occurrence is the one right before the separator. -/
theorem afterLast?_append_wanted_cons (filled : wanted ≠ []) (absent : separator ∉ wanted)
    (front : List Char) (later : ¬ wanted <:+: second) :
    afterLast? wanted (front ++ wanted ++ separator :: second) = some (separator :: second) := by
  rw [afterLast?_append_cons filled absent, afterLast?_eq_none_iff.mpr later,
    afterLast?_append_self filled]
  rfl

/-- Without an occurrence before the separator the first one stands behind it. -/
theorem beforeFirst_append_cons (absent : separator ∉ wanted) (earlier : ¬ wanted <:+: first) :
    beforeFirst wanted (first ++ separator :: second) =
      first ++ separator :: beforeFirst wanted second := by
  induction first with
  | nil =>
      have later : ¬ wanted <+: separator :: second := by
        rwa [← List.nil_append (separator :: second), prefix_append_cons_iff absent,
          List.prefix_nil, ← List.infix_nil]
      rw [List.nil_append, beforeFirst_cons, if_neg later, List.nil_append]
  | cons character first ih =>
      rw [List.infix_cons_iff, not_or] at earlier
      have notHere : ¬ wanted <+: character :: first ++ separator :: second := by
        rw [prefix_append_cons_iff absent]
        exact earlier.1
      rw [List.cons_append] at notHere
      rw [List.cons_append, beforeFirst_cons, if_neg notHere, ih earlier.2, List.cons_append]

/-! ### How often a text occurs -/

/-- The number of places of a text at which a text that is not empty begins. -/
def occurrences (wanted : List Char) : List Char → Nat
  | [] => 0
  | character :: rest =>
      (if wanted <+: character :: rest then 1 else 0) + occurrences wanted rest

/-- There are no occurrences when what is looked for is no part of the text. -/
theorem occurrences_eq_zero_iff (filled : wanted ≠ []) :
    occurrences wanted text = 0 ↔ ¬ wanted <:+: text := by
  induction text with
  | nil =>
      rw [List.infix_nil]
      exact iff_of_true rfl filled
  | cons character rest ih =>
      rw [occurrences, Nat.add_eq_zero_iff, ih, List.infix_cons_iff, not_or]
      by_cases here : wanted <+: character :: rest
      · simp [here]
      · simp [here]

/-- Occurrences are counted on both sides of a separator. -/
theorem occurrences_append_cons (filled : wanted ≠ []) (absent : separator ∉ wanted) :
    occurrences wanted (first ++ separator :: second) =
      occurrences wanted first + occurrences wanted second := by
  induction first with
  | nil =>
      have later : ¬ wanted <+: separator :: second := by
        rwa [← List.nil_append (separator :: second), prefix_append_cons_iff absent,
          List.prefix_nil]
      simp only [List.nil_append, occurrences, if_neg later]
  | cons character first ih =>
      have here : wanted <+: character :: (first ++ separator :: second) ↔
          wanted <+: character :: first := by
        rw [← List.cons_append, prefix_append_cons_iff absent]
      rw [List.cons_append, occurrences, occurrences, ih, Nat.add_assoc]
      simp only [here]

end IssueSync.Text
