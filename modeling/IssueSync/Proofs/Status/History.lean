import IssueSync.Proofs.Status.Sections

/-! # Histories of updates

As long as no status quotes a marker, each update sets the section of its
direction and keeps the other (`sectionText?_update`). Over a whole history the
last status of each direction is remembered, or the section of the text before
when there was none (`getLast?_history_eq`); only the order among the updates of
one direction counts.
-/

namespace IssueSync.Status

open Text (trimmed?)

/-- The status that the last update of a direction set. -/
def lastStatus? (direction : Direction) (steps : List (Direction × Option String)) :
    Option (Option String) :=
  (steps.filter (·.1 = direction)).getLast?.map Prod.snd

/-- The section of a direction that is there after a history: the trimmed status
of its last update, and without any the section of the text before. -/
def remembered (current : Option String) (steps : List (Direction × Option String))
    (direction : Direction) : Option String :=
  match lastStatus? direction steps with
  | some status => status.bind trimmed?
  | none => sectionText? direction (current.getD "")

variable {current : Option String} {steps others : List (Direction × Option String)}
  {direction : Direction}

/-- The last status of a direction stands in the later steps, or else in the earlier
ones. -/
theorem lastStatus?_append (first second : List (Direction × Option String)) :
    lastStatus? direction (first ++ second) =
      (lastStatus? direction second).or (lastStatus? direction first) := by
  rw [lastStatus?, List.filter_append, List.getLast?_append, Option.map_or]
  rfl

theorem lastStatus?_singleton (updated : Direction) (status : Option String) :
    lastStatus? direction [(updated, status)] =
      if direction = updated then some status else none := by
  unfold lastStatus?
  by_cases own : direction = updated
  · simp [own]
  · simp [own, Ne.symm own]

/-- An update leaves what will be remembered as it is. -/
theorem remembered_cons {updated : Direction} {status : Option String}
    (quoteless : Quoteless status) (direction : Direction) :
    remembered current ((updated, status) :: steps) direction =
      remembered (some (update current updated status)) steps direction := by
  have split : lastStatus? direction ((updated, status) :: steps) =
      (lastStatus? direction steps).or (if direction = updated then some status else none) := by
    rw [← List.singleton_append, lastStatus?_append, lastStatus?_singleton]
  rw [remembered, remembered, split]
  cases lastStatus? direction steps with
  | some later => rfl
  | none =>
      rw [Option.none_or, Option.getD_some, sectionText?_update quoteless, sectionAfter]
      by_cases own : direction = updated
      · rw [if_pos own, if_pos own]
      · rw [if_neg own, if_neg own]

/-- Only the steps of a direction matter to what is remembered of it. -/
theorem remembered_congr
    (same : others.filter (·.1 = direction) = steps.filter (·.1 = direction)) :
    remembered current others direction = remembered current steps direction := by
  rw [remembered, remembered, lastStatus?, lastStatus?, same]

/-- The last step made once more changes nothing that is remembered. -/
theorem remembered_repeat {last : Direction × Option String} (ends : last ∈ steps.getLast?)
    (direction : Direction) :
    remembered current (steps ++ [last]) direction = remembered current steps direction := by
  obtain ⟨earlier, rfl⟩ := List.getLast?_eq_some_iff.mp ends
  have same : lastStatus? direction (earlier ++ [last] ++ [last]) =
      lastStatus? direction (earlier ++ [last]) := by
    rw [lastStatus?_append, lastStatus?_append]
    cases lastStatus? direction [last] <;> rfl
  rw [remembered, remembered, same]

/-- After any steps the text is written from what is remembered of both directions. -/
theorem getLast?_history (occurs : steps ≠ []) (quoteless : ∀ step ∈ steps, Quoteless step.2) :
    (history current steps).getLast? =
      some (written (remembered current steps .inbound) (remembered current steps .outbound)) := by
  induction steps generalizing current with
  | nil => exact absurd rfl occurs
  | cons step rest ih =>
      obtain ⟨updated, status⟩ := step
      obtain ⟨now, later⟩ := List.forall_mem_cons.mp quoteless
      rw [remembered_cons now, remembered_cons now, history]
      cases rest with
      | nil =>
          -- Nothing follows: the sections are those of the updated text.
          have settled : ∀ which, remembered (some (update current updated status)) [] which =
              sectionAfter current updated status which := sectionText?_update now
          rw [settled, settled, ← update_eq_written]
          rfl
      | cons next more =>
          rw [← ih (List.cons_ne_nil _ _) later, history]
          rfl

/-- **Histories of updates.** After updates whose statuses quote no marker, the
text holds the trimmed status of the last update of each direction, and where
there was none the section read from the text before. Another order gives the
same text when it is the same among the updates of each direction, and
repeating the last update changes nothing. -/
theorem getLast?_history_eq (occurs : steps ≠ [])
    (quoteless : ∀ step ∈ steps, Quoteless step.2) :
    (history current steps).getLast? =
        some (written (remembered current steps .inbound) (remembered current steps .outbound)) ∧
      (∀ others : List (Direction × Option String),
        (∀ direction : Direction,
          others.filter (·.1 = direction) = steps.filter (·.1 = direction)) →
        (history current others).getLast? = (history current steps).getLast?) ∧
      ∀ last ∈ steps.getLast?,
        (history current (steps ++ [last])).getLast? = (history current steps).getLast? := by
  have result : (history current steps).getLast? = some
      (written (remembered current steps .inbound) (remembered current steps .outbound)) :=
    getLast?_history occurs quoteless
  refine ⟨result, ?_, ?_⟩
  · intro others same
    have among : ∀ step, step ∈ others ↔ step ∈ steps := by
      intro step
      have own : step ∈ others.filter (·.1 = step.1) ↔ step ∈ steps.filter (·.1 = step.1) := by
        rw [same step.1]
      simpa using own
    have othersOccur : others ≠ [] := by
      obtain ⟨first, member⟩ := List.exists_mem_of_ne_nil steps occurs
      exact List.ne_nil_of_mem ((among first).mpr member)
    have othersQuoteless : ∀ step ∈ others, Quoteless step.2 :=
      fun step member => quoteless step ((among step).mp member)
    rw [result, getLast?_history othersOccur othersQuoteless, remembered_congr (same .inbound),
      remembered_congr (same .outbound)]
  · intro last ends
    have repeated : ∀ step ∈ steps ++ [last], Quoteless step.2 := by
      intro step member
      rcases List.mem_append.mp member with earlier | again
      · exact quoteless step earlier
      · rw [List.mem_singleton.mp again]
        exact quoteless last (List.mem_of_getLast? ends)
    have moreOccur : steps ++ [last] ≠ [] := List.append_ne_nil_of_left_ne_nil occurs _
    rw [result, getLast?_history moreOccur repeated, remembered_repeat ends,
      remembered_repeat ends]

/-- A text with two markers of each direction, in which the inbound section
stands last. -/
def mixedText : String :=
  "a\n---Outbound sync---\nb\n---Inbound sync---\n c\n---Outbound sync------Inbound sync---\n d "

/-- The last inbound status comes close to a marker, and the one before removes
the section. -/
theorem getLast?_history_eq_mixedText :
    sectionText? .inbound mixedText = some "d" ∧ sectionText? .outbound mixedText = none ∧
      ∀ others : List (Direction × Option String),
        (∀ direction : Direction, others.filter (·.1 = direction) =
          [(Direction.inbound, none), (.outbound, some " e "),
            (.inbound, some "\n--Inbound sync--")].filter (·.1 = direction)) →
        (history (some mixedText) others).getLast? =
          some "---Inbound sync---\n--Inbound sync--\n\n---Outbound sync---\ne" := by
  have quoteless : ∀ step ∈ [(Direction.inbound, none), (.outbound, some " e "),
      (.inbound, some "\n--Inbound sync--")], Quoteless step.2 := by
    intro step member raw given direction
    simp only [List.mem_cons, List.not_mem_nil, or_false] at member
    rcases member with rfl | rfl | rfl
    · cases given
    · cases given
      cases direction <;> decide +kernel
    · cases given
      cases direction <;> decide +kernel
  refine ⟨by decide +kernel, by decide +kernel, fun others same => ?_⟩
  obtain ⟨result, reordered, -⟩ :=
    getLast?_history_eq (List.cons_ne_nil _ _) quoteless
  rw [reordered others same, result]
  decide +kernel

end IssueSync.Status
