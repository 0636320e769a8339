import IssueSync.Proofs.Status.Sections

/-! # Statuses that quote a marker

A status is written next to the markers as it is, and the sections are found by
their markers again. What a status quotes is therefore read as a section where
there is none behind it (`sectionText?_update_inbound`,
`sectionText?_update_outbound`), and its quotations count as markers
(`occurrences_update`). An update keeps the other section and writes one marker
of each direction at most, for every text before it, exactly when its status
quotes none (`separates_iff_quoteless`).
-/

namespace IssueSync.Status

open Text (occurrences trimmed?)

variable {current status : Option String} {updated which : Direction}

/-! ### What is read after an update -/

/-- After an inbound update the outbound section is the one before, or else one that the
status quotes. -/
theorem sectionText?_update_inbound (current status : Option String) :
    sectionText? .outbound (update current .inbound status) =
      (sectionText? .outbound (current.getD "")).or
        ((status.bind trimmed?).bind (sectionText? .outbound)) := by
  rw [update_eq_written, sectionText?_outbound_written]
  · rfl
  · intro kept found
    exact isSection_of_sectionText? found

/-- After an outbound update the inbound section is the one before, unless the status quotes
one, which stands later in the text. -/
theorem sectionText?_update_outbound (current status : Option String) :
    sectionText? .inbound (update current .outbound status) =
      if ∃ fresh ∈ status.bind trimmed?, Quotes fresh .inbound then
        (status.bind trimmed?).bind (sectionText? .inbound)
      else sectionText? .inbound (current.getD "") := by
  rw [update_eq_written, sectionText?_inbound_written]
  · rfl
  · intro kept found
    exact isSection_of_sectionText? found

/-! ### How many markers there are -/

/-- How often a status, if there is one, quotes the marker of a direction. -/
def quotations (which : Direction) : Option String → Nat
  | none => 0
  | some status => occurrences (marker which).toList status.toList

/-- A section quotes no marker. -/
theorem quotations_of_isSection (settled : ∀ kept ∈ status, IsSection kept) :
    quotations which status = 0 := by
  cases status with
  | none => rfl
  | some kept =>
      have plain := (settled kept rfl).plain which
      exact (Text.occurrences_eq_zero_iff (marker_ne_nil which)).mpr plain

/-- Occurrences of a marker never go over the end of a line. -/
theorem occurrences_line (which : Direction) (first second : String) :
    occurrences (marker which).toList (first ++ "\n" ++ second).toList =
      occurrences (marker which).toList first.toList +
        occurrences (marker which).toList second.toList := by
  rw [toList_line]
  exact Text.occurrences_append_cons (marker_ne_nil which) (lineFeed_not_mem_marker which)

/-- A marker occurs in itself once and not in the other one. -/
theorem occurrences_marker (which direction : Direction) :
    occurrences (marker which).toList (marker direction).toList =
      if which = direction then 1 else 0 := by
  cases which <;> cases direction <;> decide +kernel

/-- A marker occurs in the text once for its section, and as often as the statuses
quote it. -/
theorem occurrences_written (which : Direction) (inbound outbound : Option String) :
    occurrences (marker which).toList (written inbound outbound).toList =
      (if (match which with | .inbound => inbound | .outbound => outbound).isSome then 1 else 0) +
        (quotations which inbound + quotations which outbound) := by
  cases inbound with
  | none =>
      cases outbound with
      | none => cases which <;> rfl
      | some outbound =>
          rw [written, occurrences_line, occurrences_marker]
          cases which <;> simp [quotations]
  | some inbound =>
      cases outbound with
      | none =>
          rw [written, occurrences_line, occurrences_marker]
          cases which <;> simp [quotations]
      | some outbound =>
          have empty : occurrences (marker which).toList "".toList = 0 :=
            (Text.occurrences_eq_zero_iff (marker_ne_nil which)).mpr (not_quotes_empty which)
          rw [written_both, occurrences_line, belowInbound, occurrences_line, occurrences_line,
            occurrences_line, occurrences_marker, occurrences_marker, empty]
          cases which with
          | inbound =>
              simp only [quotations, Option.isSome_some, ↓reduceIte, reduceCtorEq]
              omega
          | outbound =>
              simp only [quotations, Option.isSome_some, ↓reduceIte, reduceCtorEq]
              omega

/-- Only the new status adds markers to those of the sections. -/
theorem occurrences_update (current : Option String) (updated : Direction)
    (status : Option String) (which : Direction) :
    occurrences (marker which).toList (update current updated status).toList =
      (if (sectionAfter current updated status which).isSome then 1 else 0) +
        quotations which (status.bind trimmed?) := by
  have kept : ∀ direction, direction ≠ updated →
      quotations which (sectionAfter current updated status direction) = 0 :=
    fun direction different =>
      quotations_of_isSection (isSection_of_sectionAfter direction fun own => absurd own different)
  have own : sectionAfter current updated status updated = status.bind trimmed? := if_pos rfl
  have quoted : quotations which (sectionAfter current updated status .inbound) +
      quotations which (sectionAfter current updated status .outbound) =
        quotations which (status.bind trimmed?) := by
    cases updated with
    | inbound => rw [kept .outbound (by decide), own, Nat.add_zero]
    | outbound => rw [kept .inbound (by decide), own, Nat.zero_add]
  rw [update_eq_written, occurrences_written, quoted]
  cases which <;> rfl

/-! ### When an update separates the sections -/

/-- The update keeps the other section, and each marker occurs once at most in
the new text. -/
def Separates (current : Option String) (updated : Direction) (status : Option String) : Prop :=
  sectionText? (opposite updated) (update current updated status) =
      sectionText? (opposite updated) (current.getD "") ∧
    ∀ which, occurrences (marker which).toList (update current updated status).toList ≤ 1

/-- A status that quotes a marker still does when it is trimmed. -/
theorem exists_trimmed?_of_quotes {raw : String} (quoted : Quotes raw which) :
    ∃ core, trimmed? raw = some core ∧ Quotes core which := by
  cases found : trimmed? raw with
  | none =>
      have blank := Text.trimmed_eq_nil_iff.mpr (Text.trimmed?_eq_none_iff.mp found)
      have inside := (Text.infix_trimmed_iff (marker_ne_nil which) (isTrimmed_marker which) _).mpr
        quoted
      rw [blank, List.infix_nil] at inside
      exact absurd inside (marker_ne_nil which)
  | some core => exact ⟨core, rfl, (quotes_iff_of_trimmed? found).mpr quoted⟩

/-- A status that quotes nothing leaves the other section as it was. -/
theorem separates_of_quoteless (quoteless : Quoteless status) :
    Separates current updated status := by
  constructor
  · have different : opposite updated ≠ updated := by
      cases updated <;> decide
    rw [sectionText?_update quoteless, sectionAfter, if_neg different]
  · intro which
    have none : quotations which (status.bind trimmed?) = 0 := by
      apply quotations_of_isSection
      intro core found
      obtain ⟨raw, given, trimmed⟩ := Option.bind_eq_some_iff.mp found
      exact isSection_of_trimmed? (quoteless raw given) trimmed
    rw [occurrences_update, none]
    split
    · exact Nat.le_refl 1
    · exact Nat.zero_le 1

/-- A text with nothing but a section of the other direction shows that a status
quotes a marker, whichever it is. -/
theorem quoteless_of_separates
    (separates : ∀ current, Separates current updated status) : Quoteless status := by
  intro raw given which quoted
  obtain ⟨core, trimmed, coreQuotes⟩ := exists_trimmed?_of_quotes quoted
  have fresh : status.bind trimmed? = some core := Option.bind_eq_some_iff.mpr ⟨raw, given, trimmed⟩
  have present :
      (sectionAfter (some (marker (opposite updated) ++ "\nx")) updated status which).isSome := by
    unfold sectionAfter
    by_cases own : which = updated
    · rw [if_pos own, fresh]
      rfl
    · rw [if_neg own, eq_opposite_of_ne own]
      cases updated <;> decide +kernel
  have bounded := (separates (some (marker (opposite updated) ++ "\nx"))).2 which
  rw [occurrences_update, if_pos present, fresh] at bounded
  have some : quotations which (some core) ≠ 0 := by
    intro zero
    exact (Text.occurrences_eq_zero_iff (marker_ne_nil which)).mp zero coreQuotes
  omega

/-- **What an update does to the other section.** After an inbound update the
outbound section is the one of before, or else what the new status quotes as
one; after an outbound update the inbound section is what the new status quotes,
if it quotes the marker, and else the one of before. Each marker occurs once
for its section and once for each quotation in the new status. So the update
separates the sections, whatever the text before it, exactly when the status
quotes no marker. -/
theorem separates_iff_quoteless (status : Option String) :
    (∀ current, sectionText? .outbound (update current .inbound status) =
        (sectionText? .outbound (current.getD "")).or
          ((status.bind trimmed?).bind (sectionText? .outbound))) ∧
      (∀ current, sectionText? .inbound (update current .outbound status) =
        if ∃ fresh ∈ status.bind trimmed?, Quotes fresh .inbound then
          (status.bind trimmed?).bind (sectionText? .inbound)
        else sectionText? .inbound (current.getD "")) ∧
      (∀ current updated which,
        occurrences (marker which).toList (update current updated status).toList =
          (if (sectionAfter current updated status which).isSome then 1 else 0) +
            quotations which (status.bind trimmed?)) ∧
      ∀ updated, (∀ current, Separates current updated status) ↔ Quoteless status := by
  refine ⟨fun current => sectionText?_update_inbound current status,
    fun current => sectionText?_update_outbound current status,
    fun current updated which => occurrences_update current updated status which,
    fun updated => ⟨quoteless_of_separates, fun quoteless current => ?_⟩⟩
  exact separates_of_quoteless quoteless

/-- A quoted marker makes up a section of the other direction, or hides the one
that was there, and stands beside the marker of its own. -/
theorem not_separates_of_quoted_markers :
    (sectionText? .outbound "" = none ∧
        sectionText? .outbound (update none .inbound (some "---Outbound sync---\nx")) = some "x") ∧
      (sectionText? .inbound "---Inbound sync---\nold" = some "old" ∧
        sectionText? .inbound (update (some "---Inbound sync---\nold") .outbound
          (some "---Inbound sync---\nnew")) = some "new") ∧
      occurrences (marker .inbound).toList (update (some "---Inbound sync---\nold") .outbound
        (some "---Inbound sync---\nnew")).toList = 2 ∧
      ¬ Separates none .inbound (some "---Outbound sync---\nx") ∧
      ¬ Separates (some "---Inbound sync---\nold") .outbound (some "---Inbound sync---\nnew") := by
  have madeUp : sectionText? .outbound (update none .inbound (some "---Outbound sync---\nx")) =
      some "x" := by decide +kernel
  have twice : occurrences (marker .inbound).toList (update (some "---Inbound sync---\nold")
      .outbound (some "---Inbound sync---\nnew")).toList = 2 := by decide +kernel
  have nothing : sectionText? .outbound "" = none := by decide +kernel
  refine ⟨⟨nothing, madeUp⟩, ⟨by decide +kernel, by decide +kernel⟩, twice, ?_, ?_⟩
  · intro separates
    have kept : sectionText? .outbound (update none .inbound (some "---Outbound sync---\nx")) =
        sectionText? .outbound "" := separates.1
    rw [madeUp, nothing] at kept
    cases kept
  · intro separates
    have bounded := separates.2 .inbound
    rw [twice] at bounded
    omega

end IssueSync.Status
