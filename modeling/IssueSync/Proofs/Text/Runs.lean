/-! # Runs of characters

A run of characters of one kind ends where another one stands, whatever follows
(`takeWhile_append`, `dropWhile_append`). So a run that is taken from before a
separator of another kind does not depend on what stands behind it.
-/

namespace IssueSync.Text

variable {p : Char → Bool} {front rest : List Char}

/-- The text does not begin with a character of the kind `p`. -/
def Stops (p : Char → Bool) (text : List Char) : Prop :=
  ∀ first, text.head? = some first → p first = false

theorem stops_cons {first : Char} (other : p first = false) (rest : List Char) :
    Stops p (first :: rest) := by
  intro head same
  rwa [← Option.some.inj same]

theorem takeWhile_of_stops (stops : Stops p rest) : rest.takeWhile p = [] := by
  cases rest with
  | nil => rfl
  | cons first more => rw [List.takeWhile_cons, stops first rfl, if_neg Bool.false_ne_true]

/-- A run is taken up to where it stops. -/
theorem takeWhile_append (all : ∀ character ∈ front, p character = true) (stops : Stops p rest) :
    (front ++ rest).takeWhile p = front := by
  rw [List.takeWhile_append_of_pos all, takeWhile_of_stops stops, List.append_nil]

theorem dropWhile_of_stops (stops : Stops p rest) : rest.dropWhile p = rest := by
  cases rest with
  | nil => rfl
  | cons first more => rw [List.dropWhile_cons, stops first rfl, if_neg Bool.false_ne_true]

/-- A run is dropped up to where it stops. -/
theorem dropWhile_append (all : ∀ character ∈ front, p character = true) (stops : Stops p rest) :
    (front ++ rest).dropWhile p = rest := by
  rw [List.dropWhile_append_of_pos all, dropWhile_of_stops stops]

/-- Behind the run that is dropped, anything may follow. -/
theorem exists_of_dropWhile_eq_cons {text : List Char} {first : Char}
    (drop : text.dropWhile p = first :: rest) :
    ∃ front, text = front ++ first :: rest ∧ (∀ character ∈ front, p character = true) ∧
      ∀ other, (front ++ first :: other).dropWhile p = first :: other := by
  have inside : ∀ character ∈ text.takeWhile p, p character = true :=
    List.all_eq_true.mp List.all_takeWhile
  have head := List.head?_dropWhile_not p text
  rw [drop] at head
  refine ⟨text.takeWhile p, ?_, inside, fun other => ?_⟩
  · rw [← drop, List.takeWhile_append_dropWhile]
  · exact dropWhile_append inside (stops_cons (by simpa using head) other)

section Separators

variable {separator : Char} (front rest : List Char)

theorem takeWhile_append_cons (other : p separator = false) :
    (front ++ separator :: rest).takeWhile p = front.takeWhile p := by
  induction front with
  | nil => exact takeWhile_of_stops (stops_cons other rest)
  | cons first front ih => rw [List.cons_append, List.takeWhile_cons, List.takeWhile_cons, ih]

theorem dropWhile_append_cons (other : p separator = false) :
    (front ++ separator :: rest).dropWhile p = front.dropWhile p ++ separator :: rest := by
  induction front with
  | nil => exact dropWhile_of_stops (stops_cons other rest)
  | cons first front ih =>
      rw [List.cons_append, List.dropWhile_cons, List.dropWhile_cons, ih]
      split
      · rfl
      · rfl

end Separators

end IssueSync.Text
