/-! # Searching a text for another

The first and the last place where one text occurs in another, and the removal
of a fixed start or end. A place is given by the parts of the text around the
occurrence.
-/

namespace IssueSync.Text

/-- The rest of `text` after `start`, when `text` begins with it. -/
def afterStart? (start text : List Char) : Option (List Char) :=
  start.isPrefixOf? text

/-- The rest of a text behind a start is what completes the start to the text. -/
theorem afterStart?_eq_some_iff {start text rest : List Char} :
    afterStart? start text = some rest ↔ text = start ++ rest := by
  induction start generalizing text with
  | nil =>
      change some text = some rest ↔ text = rest
      rw [Option.some.injEq]
  | cons first start ih =>
      cases text with
      | nil =>
          change none = some rest ↔ [] = first :: (start ++ rest)
          simp only [reduceCtorEq]
      | cons head tail =>
          change (if first == head then afterStart? start tail else none) = some rest ↔
            head :: tail = first :: (start ++ rest)
          rw [List.cons.injEq]
          by_cases same : first = head
          · rw [if_pos (beq_iff_eq.mpr same), ih]
            exact ⟨fun rest => ⟨same.symm, rest⟩, And.right⟩
          · rw [if_neg (fun equal => same (beq_iff_eq.mp equal))]
            constructor
            · intro found
              cases found
            · rintro ⟨equal, -⟩
              exact absurd equal.symm same

/-- There is no rest when the text does not begin with the start. -/
theorem afterStart?_eq_none_iff {start text : List Char} :
    afterStart? start text = none ↔ ¬ start <+: text := by
  constructor
  · rintro missing ⟨tail, same⟩
    rw [afterStart?_eq_some_iff.mpr same.symm] at missing
    cases missing
  · intro absent
    rw [Option.eq_none_iff_forall_ne_some]
    intro tail found
    exact absent ⟨tail, (afterStart?_eq_some_iff.mp found).symm⟩

theorem afterStart?_singleton (wanted first : Char) (rest : List Char) :
    afterStart? [wanted] (first :: rest) = if wanted = first then some rest else none := by
  by_cases same : wanted = first
  · rw [if_pos same, afterStart?_eq_some_iff, same]
    rfl
  · rw [if_neg same, afterStart?_eq_none_iff]
    rintro ⟨tail, whole⟩
    exact same (List.cons.inj whole).1

theorem afterStart?_shorter {start text rest : List Char}
    (found : afterStart? start text = some rest) : rest.length ≤ text.length := by
  rw [afterStart?_eq_some_iff.mp found, List.length_append]
  exact Nat.le_add_left _ _

/-- `text` without `finish` at its end; unchanged when it does not end so. -/
def withoutEnd (finish text : List Char) : List Char :=
  if finish.isSuffixOf text then text.take (text.length - finish.length) else text

/-- An end that was appended is taken away again. -/
theorem withoutEnd_append (finish text : List Char) :
    withoutEnd finish (text ++ finish) = text := by
  rw [withoutEnd, if_pos (List.isSuffixOf_iff_suffix.mpr (List.suffix_append _ _)),
    List.length_append, Nat.add_sub_cancel, List.take_left]

/-- The parts of `text` before and after the first occurrence of `wanted`. -/
def splitFirst? (wanted : List Char) : List Char → Option (List Char × List Char)
  | [] => if wanted.isEmpty then some ([], []) else none
  | character :: rest =>
      match afterStart? wanted (character :: rest) with
      | some after => some ([], after)
      | none => (splitFirst? wanted rest).map fun (before, after) => (character :: before, after)

/-- The parts make up the text, with what was looked for between them. -/
theorem eq_of_splitFirst? {wanted text before after : List Char}
    (found : splitFirst? wanted text = some (before, after)) :
    text = before ++ wanted ++ after := by
  induction text generalizing before with
  | nil =>
      simp only [splitFirst?] at found
      split at found
      · next blank =>
          obtain ⟨rfl, rfl⟩ := Prod.mk.inj (Option.some.inj found)
          simp [List.isEmpty_iff.mp blank]
      · cases found
  | cons character rest ih =>
      simp only [splitFirst?] at found
      split at found
      · next tail starts =>
          obtain ⟨rfl, rfl⟩ := Prod.mk.inj (Option.some.inj found)
          exact afterStart?_eq_some_iff.mp starts
      · obtain ⟨⟨inner, tail⟩, step, same⟩ := Option.map_eq_some_iff.mp found
        obtain ⟨rfl, rfl⟩ := Prod.mk.inj same
        rw [ih step]
        simp

/-- A text is divided at a character that was not there before. -/
theorem splitFirst?_singleton_iff {wanted : Char} {text before after : List Char} :
    splitFirst? [wanted] text = some (before, after) ↔
      text = before ++ wanted :: after ∧ wanted ∉ before := by
  induction text generalizing before with
  | nil =>
      constructor
      · intro found
        cases found
      · rintro ⟨whole, -⟩
        exact absurd whole.symm (by simp)
  | cons first rest ih =>
      rw [splitFirst?, afterStart?_singleton]
      by_cases same : wanted = first
      · rw [if_pos same]
        constructor
        · intro found
          cases found
          exact ⟨by rw [same]; rfl, List.not_mem_nil⟩
        · rintro ⟨whole, absent⟩
          cases before with
          | nil =>
              obtain ⟨-, rfl⟩ := List.cons.inj whole
              rfl
          | cons head more =>
              obtain ⟨rfl, -⟩ := List.cons.inj whole
              exact absurd (same ▸ List.mem_cons_self) absent
      · rw [if_neg same]
        constructor
        · intro found
          obtain ⟨⟨more, tail⟩, step, pair⟩ := Option.map_eq_some_iff.mp found
          cases pair
          obtain ⟨whole, absent⟩ := ih.mp step
          exact ⟨by rw [whole]; rfl, List.not_mem_cons_of_ne_of_not_mem same absent⟩
        · rintro ⟨whole, absent⟩
          cases before with
          | nil => exact absurd (List.cons.inj whole).1.symm same
          | cons head more =>
              obtain ⟨rfl, tailWhole⟩ := List.cons.inj whole
              rw [ih.mpr ⟨tailWhole, List.not_mem_of_not_mem_cons absent⟩]
              rfl

theorem splitFirst?_shorter {wanted text before after : List Char}
    (found : splitFirst? wanted text = some (before, after)) : after.length ≤ text.length := by
  rw [eq_of_splitFirst? found, List.length_append]
  exact Nat.le_add_left _ _

/-- The part of `text` after the last occurrence of `wanted`. -/
def afterLast? (wanted : List Char) : List Char → Option (List Char)
  | [] => if wanted.isEmpty then some [] else none
  | character :: rest =>
      match afterLast? wanted rest with
      | some after => some after
      | none => afterStart? wanted (character :: rest)

/-- The part of `text` before the first occurrence of `wanted`, all of it when
there is none. -/
def beforeFirst (wanted text : List Char) : List Char :=
  match splitFirst? wanted text with
  | some (before, _) => before
  | none => text

/-- Whether a text occurs in another one. -/
def occursIn (wanted text : List Char) : Bool :=
  (splitFirst? wanted text).isSome

end IssueSync.Text
