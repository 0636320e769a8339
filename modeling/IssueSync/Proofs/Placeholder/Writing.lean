import IssueSync.Proofs.Placeholder.Division

/-! # Texts written with placeholders

A template text is written as a literal text, a placeholder, a literal text and
so on. When no literal text has the character that the opening delimiter begins
with, and no identifier the one that the closing delimiter begins with, the
pieces divide the text (`Template.divides_write`), and the search gives back the
placeholders in the order they were written (`Template.occurrences_of_write`).
-/

namespace IssueSync

/-- A gap without the first character of the opening delimiter is clear. -/
theorem clearGap_of_not_mem {first : Char} {opening closing gap : List Char}
    (absent : first ∉ gap) (rest : List Char) : ClearGap (first :: opening) closing gap rest := by
  rintro offset below ⟨id, -, starts⟩
  rw [List.drop_append_of_le_length (Nat.le_of_lt below),
    List.drop_eq_getElem_cons below] at starts
  obtain ⟨same, -⟩ := List.cons_prefix_cons.mp starts
  exact absent (same ▸ List.getElem_mem below)

namespace Template

/-- A placeholder of a text, by its identifier, and the literal text behind it. -/
structure Segment where
  id : String
  literal : String

/-- The placeholder of a segment as it should be found. -/
def Segment.occurrence (template : Template) (segment : Segment) : Occurrence :=
  ⟨template.placeholder segment.id, segment.id⟩

/-- A text that begins with a literal text and goes on with segments. -/
def write (template : Template) (literal : String) : List Segment → String
  | [] => literal
  | segment :: rest =>
      literal ++ (template.placeholder segment.id ++ template.write segment.literal rest)

/-- The placeholder of a segment as it is written. -/
theorem Segment.text_occurrence (template : Template) (segment : Segment) :
    (segment.occurrence template).text = template.placeholder segment.id := rfl

/-- A literal text without the first character of the opening delimiter. -/
def AllowsLiteral (template : Template) (literal : String) : Prop :=
  ∀ first ∈ template.opening.toList.head?, first ∉ literal.toList

/-- An identifier on one line, without the first character of the closing
delimiter. -/
def AllowsId (template : Template) (id : String) : Prop :=
  '\n' ∉ id.toList ∧ ∀ first ∈ template.closing.toList.head?, first ∉ id.toList

-- The instances are named, so that not all characters are tried.
instance (template : Template) (literal : String) : Decidable (template.AllowsLiteral literal) :=
  Option.decidableForallMem template.opening.toList.head?

instance (template : Template) (id : String) : Decidable (template.AllowsId id) :=
  @instDecidableAnd _ _ inferInstance (Option.decidableForallMem template.closing.toList.head?)

variable {template : Template} {literal id : String} {segments : List Segment}

/-- No placeholder begins in a literal text, whatever comes behind it. -/
theorem AllowsLiteral.clearGap (allowed : template.AllowsLiteral literal)
    (opens : template.opening ≠ "") (rest : List Char) :
    ClearGap template.opening.toList template.closing.toList literal.toList rest := by
  obtain ⟨first, more, opening⟩ :=
    List.exists_cons_of_ne_nil (mt String.toList_eq_nil_iff.mp opens)
  rw [AllowsLiteral, opening] at allowed
  rw [opening]
  exact clearGap_of_not_mem (allowed first rfl) rest

/-- No closing delimiter begins in an identifier. -/
theorem AllowsId.endsNearest (allowed : template.AllowsId id) (closes : template.closing ≠ "") :
    EndsNearest template.closing.toList id.toList := by
  obtain ⟨first, more, closing⟩ :=
    List.exists_cons_of_ne_nil (mt String.toList_eq_nil_iff.mp closes)
  rw [AllowsId, closing] at allowed
  rw [closing]
  exact endsNearest_of_not_mem (allowed.2 first rfl)

/-- The pieces of a written text divide it. -/
theorem divides_write (opens : template.opening ≠ "") (closes : template.closing ≠ "")
    (literals : ∀ text ∈ literal :: segments.map Segment.literal, template.AllowsLiteral text)
    (ids : ∀ segment ∈ segments, template.AllowsId segment.id) :
    template.Divides (template.write literal segments).toList
      (segments.map (Segment.occurrence template)) := by
  induction segments generalizing literal with
  | nil => exact .gap ((literals literal List.mem_cons_self).clearGap opens [])
  | cons segment rest ih =>
      obtain ⟨allowedLiteral, laterLiterals⟩ := List.forall_mem_cons.mp literals
      obtain ⟨allowedId, laterIds⟩ := List.forall_mem_cons.mp ids
      have divides := Divides.placeholder (allowedLiteral.clearGap opens _)
        (segment.text_occurrence template) allowedId.1 (allowedId.endsNearest closes)
        (ih laterLiterals laterIds)
      rw [segment.text_occurrence template] at divides
      rw [write, String.toList_append, String.toList_append, List.map_cons]
      exact divides

/-- **Searching undoes writing.** Let a template text be written with non-empty
delimiters, literal texts that do not have the first character of the opening
delimiter, and identifiers on one line that do not have the first character of
the closing one. Then the placeholders found are those written, in their order
and as often. -/
theorem occurrences_of_write (template : Template) (literal : String) (segments : List Segment)
    (opens : template.opening ≠ "") (closes : template.closing ≠ "")
    (literals : ∀ text ∈ literal :: segments.map Segment.literal, template.AllowsLiteral text)
    (ids : ∀ segment ∈ segments, template.AllowsId segment.id)
    (written : template.text = template.write literal segments) :
    template.occurrences = segments.map (Segment.occurrence template) := by
  have delimited : template.opening.toList ≠ [] ∨ template.closing.toList ≠ [] :=
    .inl (mt String.toList_eq_nil_iff.mp opens)
  have divides := divides_write opens closes literals ids
  rw [← written] at divides
  rw [← occurrencesIn_text, ← divides.eq_occurrencesIn delimited]

/-- The identifier has the opening delimiter in it, and the literal texts have
the closing one. -/
theorem occurrences_of_write_nested :
    let template : Template := { text := "]x[a[a1]]y[a[a1]", opening := "[a", closing := "]" }
    let segments : List Segment := [⟨"[a1", "]y"⟩, ⟨"[a1", ""⟩]
    template.opening ≠ "" ∧ template.closing ≠ "" ∧
      (∀ text ∈ "]x" :: segments.map Segment.literal, template.AllowsLiteral text) ∧
      (∀ segment ∈ segments, template.AllowsId segment.id) ∧
      template.text = template.write "]x" segments ∧
      template.occurrences = [⟨"[a[a1]", "[a1"⟩, ⟨"[a[a1]", "[a1"⟩] := by
  intro template segments
  have opens : template.opening ≠ "" := by decide
  have closes : template.closing ≠ "" := by decide
  have literals : ∀ text ∈ "]x" :: segments.map Segment.literal, template.AllowsLiteral text := by
    decide
  have ids : ∀ segment ∈ segments, template.AllowsId segment.id := by
    decide
  have written : template.text = template.write "]x" segments := by
    decide +kernel
  have found := occurrences_of_write template "]x" segments opens closes literals ids written
  exact ⟨opens, closes, literals, ids, written, found.trans (by decide +kernel)⟩

end Template

end IssueSync
