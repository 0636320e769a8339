import IssueSync.Proofs.Text.Occurrence
import IssueSync.Proofs.Text.Trimming
import IssueSync.Status.Log

/-! # Reading the sections of a status text

What is read as a section is trimmed and quotes no marker
(`isSection_of_sectionText?`). An update writes two sections, one of them read
from the text before (`update_eq_written`). Reading the outbound section of what
was written gives the one that was written, whatever the inbound one quotes
(`sectionText?_outbound_written`); reading the inbound section does so unless
the outbound one quotes its marker (`sectionText?_inbound_written`). So an
update with a status that quotes no marker sets one section and keeps the other
(`sectionText?_update`).
-/

namespace IssueSync.Status

open Text (afterLast? beforeFirst trimmed? IsTrimmed AllBlank)

/-- The marker of a direction occurs in the text. -/
def Quotes (text : String) (direction : Direction) : Prop :=
  (marker direction).toList <:+: text.toList

instance (text : String) (direction : Direction) : Decidable (Quotes text direction) :=
  inferInstanceAs (Decidable (_ <:+: _))

/-- A text that can be read as a section. -/
structure IsSection (text : String) : Prop where
  filled : text ≠ ""
  trimmed : IsTrimmed text.toList
  plain : ∀ direction, ¬ Quotes text direction

variable {text core status : String} {direction : Direction}

/-! ### Markers -/

theorem marker_ne_nil (direction : Direction) : (marker direction).toList ≠ [] := by
  cases direction <;> decide +kernel

/-- Markers stand on one line. -/
theorem lineFeed_not_mem_marker (direction : Direction) :
    '\n' ∉ (marker direction).toList := by
  cases direction <;> decide +kernel

/-- Markers have no blank characters at their ends. -/
theorem isTrimmed_marker (direction : Direction) : IsTrimmed (marker direction).toList := by
  have starts : (marker direction).toList.head? = some '-' := by
    cases direction <;> decide +kernel
  have ends : (marker direction).toList.getLast? = some '-' := by
    cases direction <;> decide +kernel
  constructor
  · intro first member
    rw [starts] at member
    cases member
    decide
  · intro last member
    rw [ends] at member
    cases member
    decide

theorem eq_opposite_of_ne {which : Direction} (different : which ≠ direction) :
    which = opposite direction := by
  cases which <;> cases direction <;> first | rfl | exact absurd rfl different

theorem not_quotes_empty (direction : Direction) : ¬ Quotes "" direction := by
  unfold Quotes
  rw [String.toList_empty, List.infix_nil]
  exact marker_ne_nil direction

/-- No marker quotes the other one. -/
theorem not_quotes_marker_opposite (direction : Direction) :
    ¬ Quotes (marker (opposite direction)) direction := by
  cases direction <;> decide +kernel

/-! ### What is read -/

/-- Trimming adds and removes no quotation. -/
theorem quotes_iff_of_trimmed? {raw : String} (found : trimmed? raw = some core) :
    Quotes core direction ↔ Quotes raw direction := by
  obtain ⟨-, same⟩ := Text.trimmed?_eq_some_iff.mp found
  unfold Quotes
  rw [← same, Text.infix_trimmed_iff (marker_ne_nil direction) (isTrimmed_marker direction)]

/-- A status that quotes nothing is a section when it is trimmed. -/
theorem isSection_of_trimmed? {raw : String} (quotesNone : ∀ which, ¬ Quotes raw which)
    (found : trimmed? raw = some core) : IsSection core := by
  obtain ⟨filled, same⟩ := Text.trimmed?_eq_some_iff.mp found
  refine ⟨filled, same ▸ Text.isTrimmed_trimmed _, fun which quoted => ?_⟩
  exact quotesNone which ((quotes_iff_of_trimmed? found).mp quoted)

/-- What is found below a marker is a section. -/
theorem isSection_of_sectionText? (found : sectionText? direction text = some core) :
    IsSection core := by
  rw [sectionText?] at found
  split at found
  · cases found
  · next rest behind =>
      apply isSection_of_trimmed? _ found
      intro which
      unfold Quotes
      rw [String.toList_ofList]
      by_cases own : which = direction
      · -- The own marker does not occur behind its last occurrence.
        subst own
        intro inside
        have front := Text.beforeFirst_prefix (marker (opposite which)).toList rest
        apply Text.not_infix_of_afterLast? (marker_ne_nil which) behind
        exact inside.trans front.isInfix
      · rw [eq_opposite_of_ne own]
        exact Text.not_infix_beforeFirst (marker_ne_nil _) rest

/-- The section of a direction depends on what follows its last marker only. -/
theorem sectionText?_congr {other : String}
    (same : afterLast? (marker direction).toList text.toList =
      afterLast? (marker direction).toList other.toList) :
    sectionText? direction text = sectionText? direction other := by
  rw [sectionText?, sectionText?, same]

/-- Without the marker there is no section. -/
theorem sectionText?_of_not_quotes (absent : ¬ Quotes text direction) :
    sectionText? direction text = none := by
  rw [sectionText?, Text.afterLast?_eq_none_iff.mpr absent]

theorem toList_line (first second : String) :
    (first ++ "\n" ++ second).toList = first.toList ++ '\n' :: second.toList := by
  simp

/-- When the last part of a text quotes the marker, what comes before it does
not count. -/
theorem sectionText?_of_quotes (first : String) (quoted : Quotes status direction) :
    sectionText? direction (first ++ "\n" ++ status) = sectionText? direction status := by
  apply sectionText?_congr
  rw [toList_line, Text.afterLast?_append_cons (marker_ne_nil direction)
    (lineFeed_not_mem_marker direction)]
  cases found : afterLast? (marker direction).toList status.toList with
  | none => exact absurd quoted (Text.afterLast?_eq_none_iff.mp found)
  | some rest => rfl

/-- A marker is quoted on one of two lines. -/
theorem quotes_line_iff {first second : String} :
    Quotes (first ++ "\n" ++ second) direction ↔
      Quotes first direction ∨ Quotes second direction := by
  unfold Quotes
  rw [toList_line]
  exact Text.infix_append_cons_iff (marker_ne_nil direction) (lineFeed_not_mem_marker direction)

/-- Below the marker of one direction the section of the other is that of the
status itself. -/
theorem sectionText?_below_opposite (direction : Direction) (status : String) :
    sectionText? direction (marker (opposite direction) ++ "\n" ++ status) =
      sectionText? direction status := by
  by_cases quoted : Quotes status direction
  · exact sectionText?_of_quotes _ quoted
  · have nowhere : ¬ Quotes (marker (opposite direction) ++ "\n" ++ status) direction := by
      rw [quotes_line_iff, not_or]
      exact ⟨not_quotes_marker_opposite direction, quoted⟩
    rw [sectionText?_of_not_quotes quoted, sectionText?_of_not_quotes nowhere]

/-- The section below the last marker ends before the first marker of the other
direction. -/
theorem sectionText?_below_marker (front : String) (plain : ¬ Quotes status direction) :
    sectionText? direction (front ++ marker direction ++ "\n" ++ status) =
      trimmed? (String.ofList
        ('\n' :: beforeFirst (marker (opposite direction)).toList status.toList)) := by
  have behind : afterLast? (marker direction).toList
      (front ++ marker direction ++ "\n" ++ status).toList = some ('\n' :: status.toList) := by
    rw [toList_line, String.toList_append]
    exact Text.afterLast?_append_wanted_cons (marker_ne_nil direction)
      (lineFeed_not_mem_marker direction) front.toList plain
  have before : beforeFirst (marker (opposite direction)).toList ('\n' :: status.toList) =
      '\n' :: beforeFirst (marker (opposite direction)).toList status.toList :=
    Text.beforeFirst_append_cons (lineFeed_not_mem_marker _) (not_quotes_empty (opposite direction))
  rw [sectionText?, behind, ← before]

/-- Line feeds are blank. -/
theorem allBlank_lineFeeds (count : Nat) : AllBlank (List.replicate count '\n') := by
  intro character member
  rw [List.eq_of_mem_replicate member]
  decide

/-- A section is found again between blank characters. -/
theorem IsSection.trimmed?_blanks (isSection : IsSection core) {before after : List Char}
    (blankBefore : AllBlank before) (blankAfter : AllBlank after) :
    trimmed? (String.ofList (before ++ core.toList ++ after)) = some core := by
  rw [Text.trimmed?_eq_some_iff, String.toList_ofList]
  exact ⟨isSection.filled, Text.trimmed_blanks blankBefore isSection.trimmed blankAfter⟩

/-! ### What is written -/

/-- The sections as they stand in a text. -/
def written : Option String → Option String → String
  | none, none => ""
  | some inbound, none => marker .inbound ++ "\n" ++ inbound
  | none, some outbound => marker .outbound ++ "\n" ++ outbound
  | some inbound, some outbound =>
      marker .inbound ++ "\n" ++ inbound ++ "\n\n" ++ marker .outbound ++ "\n" ++ outbound

/-- The text that is put together from two sections. -/
theorem render_eq_written (inbound outbound : Option String) :
    render inbound outbound = written inbound outbound := by
  cases inbound with
  | none => cases outbound <;> rfl
  | some inbound =>
      cases outbound with
      | none => rfl
      | some outbound => simp [render, written, String.append_assoc]

/-- What stands below the inbound marker when there are both sections: the
inbound status, an empty line and the outbound section. -/
def belowInbound (inbound outbound : String) : String :=
  inbound ++ "\n" ++ ("" ++ "\n" ++ (marker .outbound ++ "\n" ++ outbound))

/-- With both sections the inbound one comes first. -/
theorem written_both (inbound outbound : String) :
    written (some inbound) (some outbound) =
      marker .inbound ++ "\n" ++ belowInbound inbound outbound := by
  have lineFeeds : "\n\n" = "\n" ++ "\n" := rfl
  simp only [written, belowInbound, lineFeeds, String.empty_append, String.append_assoc]

/-- The section of a direction that an update writes. -/
def sectionAfter (current : Option String) (updated : Direction) (status : Option String)
    (direction : Direction) : Option String :=
  if direction = updated then status.bind trimmed? else sectionText? direction (current.getD "")

/-- After an update the text is written from the sections that are left. -/
theorem update_eq_written (current : Option String) (updated : Direction)
    (status : Option String) :
    update current updated status =
      written (sectionAfter current updated status .inbound)
        (sectionAfter current updated status .outbound) := by
  cases updated <;> exact render_eq_written _ _

/-! ### Reading what was written -/

variable {inbound outbound : Option String}

/-- A section at the end of a text is found below its marker. -/
theorem IsSection.sectionText?_below (isSection : IsSection core) (direction : Direction)
    (front : String) :
    sectionText? direction (front ++ marker direction ++ "\n" ++ core) = some core := by
  have whole : beforeFirst (marker (opposite direction)).toList core.toList = core.toList :=
    Text.beforeFirst_of_not_infix (isSection.plain (opposite direction))
  have surrounded := isSection.trimmed?_blanks (allBlank_lineFeeds 1) (allBlank_lineFeeds 0)
  rw [List.replicate_zero, List.append_nil, List.replicate_one, List.singleton_append]
    at surrounded
  rw [sectionText?_below_marker front (isSection.plain direction), whole]
  exact surrounded

/-- The empty line and the outbound section do not belong to the section before
them. -/
theorem IsSection.sectionText?_both (isSection : IsSection core)
    (plain : ¬ Quotes status .inbound) :
    sectionText? .inbound (written (some core) (some status)) = some core := by
  have behind : ¬ Quotes (belowInbound core status) .inbound := by
    rw [belowInbound, quotes_line_iff, quotes_line_iff, quotes_line_iff]
    have own := isSection.plain .inbound
    have empty := not_quotes_empty .inbound
    have marked : ¬ Quotes (marker .outbound) .inbound := not_quotes_marker_opposite .inbound
    simp only [own, empty, marked, plain, or_self, not_false_eq_true]
  have ends : beforeFirst (marker .outbound).toList (belowInbound core status).toList =
      core.toList ++ List.replicate 2 '\n' := by
    have absent := lineFeed_not_mem_marker .outbound
    rw [belowInbound, toList_line, toList_line, toList_line,
      Text.beforeFirst_append_cons absent (isSection.plain .outbound),
      Text.beforeFirst_append_cons absent (not_quotes_empty .outbound),
      Text.beforeFirst_self_append (marker_ne_nil _), String.toList_empty]
    rfl
  have below := sectionText?_below_marker "" behind
  rw [String.empty_append, opposite, ends] at below
  have surrounded := isSection.trimmed?_blanks (allBlank_lineFeeds 1) (allBlank_lineFeeds 2)
  rw [written_both, below]
  exact surrounded

/-- The outbound section is found again, since it comes last. Without one, a quotation in
the other section is taken for it. -/
theorem sectionText?_outbound_written (settled : ∀ status ∈ outbound, IsSection status) :
    sectionText? .outbound (written inbound outbound) =
      outbound.or (inbound.bind (sectionText? .outbound)) := by
  cases outbound with
  | none =>
      cases inbound with
      | none => rfl
      | some inbound => exact sectionText?_below_opposite .outbound inbound
  | some outbound =>
      have isSection := settled outbound rfl
      cases inbound with
      | none =>
          have found := isSection.sectionText?_below .outbound ""
          rwa [String.empty_append] at found
      | some inbound => exact isSection.sectionText?_below .outbound _

/-- The inbound section is found again, unless the outbound one quotes its marker. -/
theorem sectionText?_inbound_written (settled : ∀ status ∈ inbound, IsSection status) :
    sectionText? .inbound (written inbound outbound) =
      if ∃ status ∈ outbound, Quotes status .inbound then
        outbound.bind (sectionText? .inbound)
      else inbound := by
  cases outbound with
  | none =>
      rw [if_neg (by simp)]
      cases inbound with
      | none => rfl
      | some inbound =>
          have found := (settled inbound rfl).sectionText?_below .inbound ""
          rwa [String.empty_append] at found
  | some outbound =>
      by_cases quoted : Quotes outbound .inbound
      · rw [if_pos ⟨outbound, rfl, quoted⟩, Option.bind_some]
        cases inbound with
        | none => exact sectionText?_of_quotes _ quoted
        | some inbound => exact sectionText?_of_quotes _ quoted
      · rw [if_neg (by simpa using quoted)]
        cases inbound with
        | none =>
            have found := sectionText?_below_opposite .inbound outbound
            rwa [sectionText?_of_not_quotes quoted] at found
        | some inbound => exact (settled inbound rfl).sectionText?_both quoted

/-! ### Updates that quote no marker -/

/-- A status, if there is one, in which no marker occurs. -/
def Quoteless (status : Option String) : Prop :=
  ∀ raw ∈ status, ∀ direction, ¬ Quotes raw direction

variable {current fresh : Option String} {updated : Direction}

/-- After an update without quotations what is kept are sections. -/
theorem isSection_of_sectionAfter (direction : Direction)
    (quoteless : direction = updated → Quoteless fresh) :
    ∀ status ∈ sectionAfter current updated fresh direction, IsSection status := by
  intro status found
  rw [sectionAfter, Option.mem_def] at found
  split at found
  · next own =>
      obtain ⟨raw, given, core⟩ := Option.bind_eq_some_iff.mp found
      exact isSection_of_trimmed? (quoteless own raw given) core
  · exact isSection_of_sectionText? found

/-- **One update.** The updated section is the trimmed status afterwards, and the
other section is what it was. -/
theorem sectionText?_update (quoteless : Quoteless fresh) (direction : Direction) :
    sectionText? direction (update current updated fresh) =
      sectionAfter current updated fresh direction := by
  have inbound : ∀ status ∈ sectionAfter current updated fresh .inbound, IsSection status :=
    isSection_of_sectionAfter .inbound fun _ => quoteless
  have outbound : ∀ status ∈ sectionAfter current updated fresh .outbound, IsSection status :=
    isSection_of_sectionAfter .outbound fun _ => quoteless
  rw [update_eq_written]
  cases direction with
  | inbound =>
      rw [sectionText?_inbound_written inbound, if_neg]
      rintro ⟨status, found, quoted⟩
      exact (outbound status found).plain .inbound quoted
  | outbound =>
      rw [sectionText?_outbound_written outbound]
      have nothing : (sectionAfter current updated fresh .inbound).bind (sectionText? .outbound) =
          none := by
        rw [Option.bind_eq_none_iff]
        intro status found
        exact sectionText?_of_not_quotes ((inbound status found).plain .outbound)
      rw [nothing, Option.or_none]

end IssueSync.Status
