import IssueSync.Xml.Markup

/-! # Taking tags off

The tags around a text come off whatever the text is, also when it holds the tags
itself: the start tag ends at the first closing bracket behind its name, so only
what stands in it matters (`FitsStartTag`), and one end tag is taken off at the end
(`unwrap_element`). A tag that closes itself leaves nothing (`unwrap_closed`), and
a text without the start tag stays as it is (`unwrap_of_not_startsTag`).
-/

namespace IssueSync.Xml

open Text (afterStart?_eq_some_iff)

/-- What may stand behind the name in a start tag: nothing, or something behind a
space, which neither ends the tag nor looks like the end of one that closes itself. -/
structure FitsStartTag (part : List Char) : Prop where
  begins : part = [] ∨ part.head? = some ' '
  bracketAbsent : '>' ∉ part
  staysOpen : part.getLast? ≠ some '/'

/-- The characters that end the name in a start tag. -/
def nameEnds : List Char := ['>', '/', ' ']

/-- The text begins with the start tag of `tag` as far as its name goes. -/
def StartsTag (tag markup : List Char) : Prop :=
  ∃ next ∈ nameEnds, '<' :: tag ++ [next] <+: markup

variable {tag part markup : List Char}

/-- Behind the name of a start tag, the first closing bracket decides. -/
theorem unwrap_start {next : Char} (ends : next ∈ nameEnds) (rest : List Char) :
    unwrap tag ('<' :: (tag ++ next :: rest)) =
      match Text.splitFirst? ['>'] (next :: rest) with
      | none => '<' :: (tag ++ next :: rest)
      | some (beforeEnd, inner) =>
          if beforeEnd.getLast? = some '/' then []
          else Text.withoutEnd (['<', '/'] ++ tag ++ ['>']) inner := by
  have starts : Text.afterStart? ('<' :: tag) ('<' :: (tag ++ next :: rest)) =
      some (next :: rest) := afterStart?_eq_some_iff.mpr rfl
  rw [unwrap, starts]
  simp only [nameEnds, List.mem_cons, List.not_mem_nil, or_false] at ends
  rcases ends with rfl | rfl | rfl
  · rfl
  · rfl
  · rfl

/-- What follows the name in a start tag is known to end it. -/
theorem FitsStartTag.exists_append_cons (fits : FitsStartTag part) {closer : Char}
    (closes : closer ∈ nameEnds) (rest : List Char) :
    ∃ next more, part ++ closer :: rest = next :: more ∧ next ∈ nameEnds := by
  rcases fits.begins with rfl | space
  · exact ⟨closer, rest, rfl, closes⟩
  · obtain ⟨more, rfl⟩ := List.head?_eq_some_iff.mp space
    exact ⟨' ', more ++ closer :: rest, rfl, by decide⟩

/-- What stands between a start tag and its end tag. -/
theorem unwrap_element (tag : List Char) (fits : FitsStartTag part) (inner : List Char) :
    unwrap tag ('<' :: (tag ++ (part ++ '>' :: (inner ++ (['<', '/'] ++ tag ++ ['>']))))) =
      inner := by
  have divided : Text.splitFirst? ['>'] (part ++ '>' :: (inner ++ (['<', '/'] ++ tag ++ ['>']))) =
      some (part, inner ++ (['<', '/'] ++ tag ++ ['>'])) :=
    Text.splitFirst?_singleton_iff.mpr ⟨rfl, fits.bracketAbsent⟩
  have closes : '>' ∈ nameEnds := by decide
  obtain ⟨next, more, same, ends⟩ := fits.exists_append_cons closes
    (inner ++ (['<', '/'] ++ tag ++ ['>']))
  rw [same] at divided ⊢
  rw [unwrap_start ends, divided]
  dsimp only
  rw [if_neg fits.staysOpen, Text.withoutEnd_append]

/-- Nothing stands in a tag that closes itself. -/
theorem unwrap_closed (tag : List Char) (fits : FitsStartTag part) :
    unwrap tag ('<' :: (tag ++ (part ++ ['/', '>']))) = [] := by
  have absent : '>' ∉ part ++ ['/'] := by
    simpa using fits.bracketAbsent
  have divided : Text.splitFirst? ['>'] (part ++ ['/'] ++ ['>']) = some (part ++ ['/'], []) :=
    Text.splitFirst?_singleton_iff.mpr ⟨rfl, absent⟩
  rw [List.append_assoc, List.singleton_append] at divided
  have closes : '/' ∈ nameEnds := by decide
  obtain ⟨next, more, same, ends⟩ := fits.exists_append_cons closes ['>']
  rw [same] at divided ⊢
  rw [unwrap_start ends, divided]
  dsimp only
  rw [if_pos List.getLast?_concat]

/-- A text that does not begin with the start tag stays as it is. -/
theorem unwrap_of_not_startsTag (other : ¬ StartsTag tag markup) : unwrap tag markup = markup := by
  rw [unwrap]
  cases starts : Text.afterStart? ('<' :: tag) markup with
  | none => rfl
  | some afterName =>
      have whole : markup = '<' :: tag ++ afterName := afterStart?_eq_some_iff.mp starts
      have next {first : Char} {rest : List Char} (ends : first ∈ nameEnds)
          (same : afterName = first :: rest) : False := by
        apply other
        refine ⟨first, ends, rest, ?_⟩
        rw [whole, same, List.append_assoc, List.singleton_append]
      dsimp only
      split
      · exact (next (by decide) rfl).elim
      · exact (next (by decide) rfl).elim
      · exact (next (by decide) rfl).elim
      · rfl

/-- **Unwrapping undoes wrapping.** The tags put around any text come off again, with
all that fits into the start tag; of a tag that closes itself nothing is left; and a
text that does not begin with the start tag stays as it is. -/
theorem unwrapMarkup_wrapped (tag : String) :
    (∀ part inner : String, FitsStartTag part.toList →
      unwrapMarkup tag ("<" ++ tag ++ part ++ ">" ++ inner ++ "</" ++ tag ++ ">") = inner) ∧
    (∀ part : String, FitsStartTag part.toList →
      unwrapMarkup tag ("<" ++ tag ++ part ++ "/>") = "") ∧
    ∀ markup : String, ¬ StartsTag tag.toList markup.toList → unwrapMarkup tag markup = markup := by
  refine ⟨fun part inner fits => ?_, fun part fits => ?_, fun markup other => ?_⟩
  · have whole := unwrap_element tag.toList fits inner.toList
    rw [unwrapMarkup, ← String.toList_inj, String.toList_ofList, ← whole]
    simp
  · have whole := unwrap_closed tag.toList fits
    rw [unwrapMarkup, ← String.toList_inj, String.toList_ofList, String.toList_empty, ← whole]
    simp
  · rw [unwrapMarkup, unwrap_of_not_startsTag other, String.ofList_toList]

/-- The text inside begins with the end tag, holds the start tag and ends in the end
tag; the name in a start tag may be longer. -/
theorem unwrapMarkup_wrapped_templates :
    unwrapMarkup "template"
        ("<template a='/' b></template>x/><template>y</template></template>") =
      "</template>x/><template>y</template>" ∧
    unwrapMarkup "template" "<template a='/' b/>" = "" ∧
    unwrapMarkup "template" "<templates>x</templates>" = "<templates>x</templates>" := by
  obtain ⟨wrapped, closed, other⟩ := unwrapMarkup_wrapped "template"
  have fits : FitsStartTag " a='/' b".toList := ⟨by decide, by decide, by decide⟩
  refine ⟨wrapped " a='/' b" "</template>x/><template>y</template>" fits,
    closed " a='/' b" fits, other _ ?_⟩
  simp [StartsTag, nameEnds]

end IssueSync.Xml
