import IssueSync.Proofs.Loading.Outcome
import IssueSync.Proofs.Placeholder.Division
import IssueSync.Proofs.Reading.MappingPlaces

/-! # What is checked of a template text

A template element may hold one text and nothing else. The template text is
then the escaped form of that text, while delimiters and field identifiers come
from attributes as they are. So the complaint about the template is that about
the escaped text (`TextTemplate.complaints_eq`), and a placeholder whose
identifier or delimiters have ampersands or brackets is not found as it was
meant (`complaints_about_escaped_texts`). Where the delimiters cannot be matched the
text does not matter.
-/

namespace IssueSync

open Xml (Document IsPlain Place escape)

/-- The identifiers a mapping declares are the attributes `id` of its fields, as
far as they are not empty. -/
theorem declares_readMapping {direction : Direction} {place : Place} {id : String} :
    (readMapping direction place).Declares id ↔
      id ≠ "" ∧ ∃ field ∈ place.fields, field.node.attribute? "id" = some id := by
  have declared : ∀ field : Place, (readField field).id = some id ↔
      field.node.attribute? "id" = some id ∧ id ≠ "" := by
    intro field
    have filled : (readField field).id = (field.node.attribute? "id").filter (· ≠ "") := rfl
    rw [filled, Option.filter_eq_some_iff, decide_eq_true_eq]
  rw [Mapping.declares_iff, allFields_readMapping]
  constructor
  · rintro ⟨field, member, named⟩
    obtain ⟨found, listed, rfl⟩ := List.mem_map.mp member
    obtain ⟨same, filled⟩ := (declared found).mp named
    exact ⟨filled, found, listed, same⟩
  · rintro ⟨filled, found, listed, same⟩
    exact ⟨readField found, List.mem_map_of_mem listed, (declared found).mpr ⟨same, filled⟩⟩

/-- A template that is read has a delimiter. -/
theorem readTemplate_delimited (field : Place) :
    (readTemplate field).opening.toList ≠ [] ∨ (readTemplate field).closing.toList ≠ [] := by
  left
  have opening : (readTemplate field).opening =
      ((field.node.attribute? "idPrefix").filter (· ≠ "")).getD defaultDelimiter := rfl
  rw [opening, Ne, String.toList_eq_nil_iff]
  cases given : (field.node.attribute? "idPrefix").filter (· ≠ "") with
  | none => decide
  | some delimiter => exact of_decide_eq_true (Option.filter_eq_some_iff.mp given).2

/-! ### The complaint about one text -/

namespace Mapping

variable [Libraries] {mapping : Mapping} {template : Template} {label id : String}

/-- The complaint about a template when its text is `text`: about its delimiters when
these cannot be matched, or else about the placeholders in the text that name no field of
the mapping. -/
def complaintOn? (mapping : Mapping) (label : String) (template : Template) (text : String) :
    Option Complaint :=
  match template.refusal? with
  | some reason => some ⟨label, .unmatched template.opening template.closing reason⟩
  | none =>
      let undeclared := (template.occurrencesIn text.toList).filter fun occurrence =>
        ¬ mapping.Declares occurrence.id
      if undeclared = [] then none else some ⟨label, .unresolved (undeclared.map Occurrence.text)⟩

/-- The complaints about the templates of some template fields. -/
def complaintsAt (mapping : Mapping) (label : String) (fields : List Place) : List Complaint :=
  fields.filterMap fun field =>
    mapping.complaintOn? label (readTemplate field) (readTemplate field).text

/-- The complaints of a mapping are those about its templates with their own texts. -/
theorem complaints_eq_filterMap (mapping : Mapping) (label : String) :
    mapping.complaints label =
      mapping.templates.filterMap fun template =>
        mapping.complaintOn? label template template.text := by
  rw [complaints, List.map_filterMap]
  refine congrArg (List.filterMap · mapping.templates) (funext fun template => ?_)
  rw [Template.cause?, complaintOn?]
  cases template.refusal? with
  | some reason => rfl
  | none =>
      dsimp only
      rw [unresolved_declaredIds, Template.occurrencesIn_text]
      cases template.occurrences.filter fun occurrence => ¬ mapping.Declares occurrence.id with
      | nil => rfl
      | cons first rest => rfl

/-- The only placeholder of a text is at fault when its identifier is not
declared. -/
theorem complaintOn?_of_single {text : String} {occurrence : Occurrence}
    (accepted : template.refusal? = none)
    (single : template.occurrencesIn text.toList = [occurrence]) :
    mapping.complaintOn? label template text =
      if mapping.Declares occurrence.id then none
      else some ⟨label, .unresolved [occurrence.text]⟩ := by
  rw [complaintOn?, accepted, single]
  by_cases declared : mapping.Declares occurrence.id
  · simp [declared]
  · simp [declared]

/-- Between delimiters that are not escaped themselves, the identifier is looked
up in its escaped form. -/
theorem complaintOn?_of_placeholder (accepted : template.refusal? = none)
    (delimited : template.opening.toList ≠ [] ∨ template.closing.toList ≠ [])
    (openingPlain : IsPlain template.opening) (closingPlain : IsPlain template.closing)
    (oneLine : '\n' ∉ id.toList)
    (nearest : EndsNearest template.closing.toList (escape .betweenTags id).toList) :
    mapping.complaintOn? label template (escape .betweenTags (template.placeholder id)) =
      if mapping.Declares (escape .betweenTags id) then none
      else some ⟨label, .unresolved [template.placeholder (escape .betweenTags id)]⟩ := by
  have written : escape .betweenTags (template.placeholder id) =
      template.placeholder (escape .betweenTags id) := by
    rw [Template.placeholder, Xml.escape_append, Xml.escape_append,
      Xml.escape_of_plain openingPlain, Xml.escape_of_plain closingPlain]
    rfl
  have escapedOneLine : '\n' ∉ (escape .betweenTags id).toList :=
    Xml.not_mem_escape oneLine (by decide)
  rw [written]
  exact complaintOn?_of_single accepted
    (Template.occurrencesIn_placeholder delimited escapedOneLine nearest)

/-- Nothing is found in an escaped text when a delimiter has a bracket. -/
theorem complaintOn?_of_bracket {text : String} {bracket : Char}
    (accepted : template.refusal? = none)
    (isBracket : bracket = '<' ∨ bracket = '>')
    (used : bracket ∈ template.opening.toList ∨ bracket ∈ template.closing.toList) :
    mapping.complaintOn? label template (escape .betweenTags text) = none := by
  have absent : bracket ∉ (escape .betweenTags text).toList := by
    intro member
    obtain ⟨left, right, -⟩ := Xml.mem_escape member
    exact isBracket.elim left right
  rw [complaintOn?, accepted, Template.occurrencesIn, placeholderIds_eq_nil used absent]
  rfl

end Mapping

/-! ### Template elements with one text -/

/-- A template field of an accepted document whose template element holds one
text and nothing else. -/
structure TextTemplate (text : String) where
  document : Document
  parsed : Document.parse? text = some document
  direction : Direction
  /-- The place of the mapping. -/
  place : Place
  listed : place ∈ document.mappings direction
  /-- The template fields of the mapping before this one. -/
  before : List Place
  field : Place
  /-- The template fields of the mapping after this one. -/
  after : List Place
  divided : place.templateFields = before ++ field :: after
  /-- The text inside the template element. -/
  characters : String
  single : field.onlyText? = some characters

namespace TextTemplate

variable {text : String} (site : TextTemplate text)

/-- The mapping that is read. -/
def mapping : Mapping :=
  readMapping site.direction site.place

/-- The template that is read of the template field. -/
def template : Template :=
  readTemplate site.field

/-- The text of the template is the one inside the template element, escaped. -/
theorem text_template : site.template.text = escape .betweenTags site.characters := by
  have named := mapping_wellNamed site.parsed site.listed
  have member : site.field ∈ site.place.templateFields := by
    rw [site.divided]
    exact List.mem_append_right _ List.mem_cons_self
  exact text_of_onlyText? (named.grandchildren member) site.single

/-- The mappings of one direction, each with the texts that its template
elements hold. -/
def survey (document : Document) (direction : Direction) :
    List (Mapping × List (Option String)) :=
  (document.mappings direction).map fun place =>
    (readMapping direction place, place.templateFields.map Place.onlyText?)

/-- The only template of the only mapping of a direction. -/
theorem exists_of_survey {direction : Direction} {mapping : Mapping} {template : Template}
    {characters : String} (only : mapping.templates = [template])
    (surveyed : (Document.parse? text).map (survey · direction) =
      some [(mapping, [some characters])]) :
    ∃ site : TextTemplate text, site.mapping = mapping ∧ site.template = template ∧
      site.characters = characters ∧ site.before = [] ∧ site.after = [] := by
  obtain ⟨document, parsed, found⟩ := Option.map_eq_some_iff.mp surveyed
  obtain ⟨place, places, same⟩ := List.map_eq_singleton_iff.mp found
  obtain ⟨read, texts⟩ := Prod.mk.inj same
  obtain ⟨field, fields, single⟩ := List.map_eq_singleton_iff.mp texts
  have listed : place ∈ document.mappings direction := by
    rw [places]
    exact List.mem_singleton_self place
  have templates : [readTemplate field] = mapping.templates := by
    rw [← read]
    exact (congrArg (List.map readTemplate) fields).symm
  exact ⟨⟨document, parsed, direction, place, listed, [], field, [], fields, characters, single⟩,
    read, List.singleton_inj.mp (templates.trans only), rfl, rfl, rfl⟩

variable [Libraries]

/-- The complaint about the template when its text is the one inside the
template element, escaped. -/
def complaint? (label : String) : Option Complaint :=
  site.mapping.complaintOn? label site.template (escape .betweenTags site.characters)

/-- The complaint about the template stands between those about the others. -/
theorem complaints_mapping (label : String) :
    site.mapping.complaints label =
      site.mapping.complaintsAt label site.before ++ (site.complaint? label).toList ++
        site.mapping.complaintsAt label site.after := by
  have templates : site.mapping.templates =
      (site.before ++ site.field :: site.after).map readTemplate := by
    rw [← site.divided]
    rfl
  have own : site.complaint? label =
      site.mapping.complaintOn? label site.template site.template.text := by
    rw [complaint?, text_template]
  rw [Mapping.complaints_eq_filterMap, templates, List.filterMap_map, List.filterMap_append,
    List.filterMap_cons, own, Mapping.complaintsAt, Mapping.complaintsAt, List.append_assoc,
    Function.comp_apply, template]
  cases site.mapping.complaintOn? label (readTemplate site.field)
    (readTemplate site.field).text with
  | none => rfl
  | some complaint => rfl

/-- **What is checked is the escaped text.** The complaints of the mapping are
those about the other templates and, in its place, the one about the escaped
text, with the placeholders whose identifiers are no attribute `id` of a field.
A plain text is checked as it is. Where the delimiters cannot be matched, the complaint
is about them and not about the text. So between the default delimiters an identifier
resolves when its escaped form is declared; between plain delimiters that can be matched
an undeclared plain identifier, up to the nearest closing delimiter, is always reported;
and with a bracket in a delimiter that can be matched nothing is. -/
theorem complaints_eq (label : String) :
    site.mapping.complaints label =
        site.mapping.complaintsAt label site.before ++ (site.complaint? label).toList ++
          site.mapping.complaintsAt label site.after ∧
      (∀ id, site.mapping.Declares id ↔
        id ≠ "" ∧ ∃ field ∈ site.place.fields, field.node.attribute? "id" = some id) ∧
      (IsPlain site.characters → site.complaint? label =
        site.mapping.complaintOn? label site.template site.characters) ∧
      (∀ reason, site.template.refusal? = some reason → site.complaint? label =
        some ⟨label, .unmatched site.template.opening site.template.closing reason⟩) ∧
      (∀ id, site.template.opening = defaultDelimiter →
        site.template.closing = defaultDelimiter → '%' ∉ id.toList → '\n' ∉ id.toList →
        site.characters = site.template.placeholder id →
        site.complaint? label =
          if site.mapping.Declares (escape .betweenTags id) then none
          else some ⟨label, .unresolved [site.template.placeholder (escape .betweenTags id)]⟩) ∧
      (∀ id, site.template.refusal? = none →
        IsPlain site.template.opening → IsPlain site.template.closing → IsPlain id →
        '\n' ∉ id.toList → EndsNearest site.template.closing.toList id.toList →
        site.characters = site.template.placeholder id → ¬ site.mapping.Declares id →
        site.complaint? label = some ⟨label, .unresolved [site.characters]⟩) ∧
      (∀ bracket, site.template.refusal? = none → bracket = '<' ∨ bracket = '>' →
        bracket ∈ site.template.opening.toList ∨ bracket ∈ site.template.closing.toList →
        site.complaint? label = none) := by
  have delimited : site.template.opening.toList ≠ [] ∨ site.template.closing.toList ≠ [] :=
    readTemplate_delimited site.field
  refine ⟨site.complaints_mapping label, fun id => declares_readMapping, ?_, ?_, ?_, ?_, ?_⟩
  · intro plain
    rw [complaint?, Xml.escape_of_plain plain]
  · intro reason refused
    rw [complaint?, Mapping.complaintOn?, refused]
  · intro id opening closing noDelimiter oneLine written
    have escaped : '%' ∉ (escape .betweenTags id).toList :=
      Xml.not_mem_escape noDelimiter (by decide)
    have plain : IsPlain defaultDelimiter := by
      decide
    have nearest : EndsNearest site.template.closing.toList (escape .betweenTags id).toList := by
      rw [closing]
      exact endsNearest_of_not_mem escaped
    have accepted : site.template.refusal? = none := by
      rw [Template.refusal?, opening, closing]
      exact Libraries.delimiterReason?_percent
    rw [complaint?, written]
    exact Mapping.complaintOn?_of_placeholder accepted delimited (opening.symm ▸ plain)
      (closing.symm ▸ plain) oneLine nearest
  · intro id accepted openingPlain closingPlain plain oneLine nearest written undeclared
    have same := Xml.escape_of_plain plain
    rw [complaint?, written, Mapping.complaintOn?_of_placeholder accepted delimited
      openingPlain closingPlain oneLine (same.symm ▸ nearest), same, if_neg undeclared]
  · intro bracket accepted isBracket used
    exact Mapping.complaintOn?_of_bracket accepted isBracket used

end TextTemplate

section

attribute [local instance] Libraries.sizeLimited

/-- A template between square brackets, with a placeholder of no field. -/
def undeclaredText : String :=
  "<configurations><configuration><mappings><mappingIn><templateFields>
    <templateField idPrefix='[' idSuffix=']'><template>[owner]</template></templateField>
  </templateFields></mappingIn></mappings></configuration></configurations>"

set_option maxRecDepth 8000 in
/-- The undeclared identifier is reported. -/
theorem complaints_undeclaredText :
    ∃ site : TextTemplate undeclaredText, site.characters = "[owner]" ∧
      site.mapping.complaints "Inbound" = [⟨"Inbound", .unresolved ["[owner]"]⟩] := by
  have surveyed : (Document.parse? undeclaredText).map (TextTemplate.survey · .inbound) =
      some [({ templates := [{ text := "[owner]", opening := "[", closing := "]" }] },
        [some "[owner]"])] :=
    (congrArg _ (Document.parse?_ofList _)).trans (by decide +kernel)
  obtain ⟨site, mapping, template, characters, before, after⟩ :=
    TextTemplate.exists_of_survey rfl surveyed
  obtain ⟨whole, -, -, -, -, undeclared, -⟩ := site.complaints_eq "Inbound"
  have complaint : site.complaint? "Inbound" = some ⟨"Inbound", .unresolved [site.characters]⟩ := by
    refine undeclared "owner" ?_ ?_ ?_ (by decide) (by decide) ?_ ?_ ?_
    · rw [template]
      decide
    · rw [template]
      decide
    · rw [template]
      decide
    · rw [template]
      decide +kernel
    · rw [template, characters]
      decide +kernel
    · rw [mapping]
      decide +kernel
  refine ⟨site, characters, ?_⟩
  rw [whole, before, after, complaint, characters]
  rfl

/-- A template with a placeholder for the field with the identifier `R&D`. -/
def ampersandText : String :=
  "<configurations><configuration><mappings><mappingIn>
    <fields><field id='R&amp;D'/></fields>
    <templateFields><templateField><template>%R&amp;D%</template></templateField></templateFields>
  </mappingIn></mappings></configuration></configurations>"

/-- A template between doubled angle brackets, with a placeholder of no field. -/
def bracketText : String :=
  "<configurations><configuration><mappings><mappingIn><templateFields>
    <templateField idPrefix='&lt;&lt;' idSuffix='&gt;&gt;'>
      <template>&lt;&lt;x&gt;&gt;</template>
    </templateField>
  </templateFields></mappingIn></mappings></configuration></configurations>"

/-- A template with a placeholder of no field, where the closing delimiter stands
in the identifier and the part before it is a field. -/
def overlapText : String :=
  "<configurations><configuration><mappings><mappingIn>
    <fields><field id='a'/></fields><templateFields>
    <templateField idSuffix='b'><template>%abcb</template></templateField>
    </templateFields></mappingIn></mappings></configuration></configurations>"

set_option maxRecDepth 8000 in
/-- The text inside the template element is not what is checked: a placeholder
of a declared field is reported in its escaped form, and placeholders of no
field are not reported. -/
theorem complaints_about_escaped_texts :
    (∃ site : TextTemplate ampersandText,
      site.characters = site.template.placeholder "R&D" ∧ site.mapping.Declares "R&D" ∧
        site.mapping.complaintOn? "Inbound" site.template site.characters = none ∧
        site.mapping.complaints "Inbound" = [⟨"Inbound", .unresolved ["%R&amp;D%"]⟩]) ∧
      (∃ site : TextTemplate bracketText,
        site.characters = site.template.placeholder "x" ∧ ¬ site.mapping.Declares "x" ∧
          site.mapping.complaintOn? "Inbound" site.template site.characters =
            some ⟨"Inbound", .unresolved ["<<x>>"]⟩ ∧
          site.mapping.complaints "Inbound" = []) ∧
      (∃ site : TextTemplate overlapText,
        site.characters = site.template.placeholder "abc" ∧ ¬ site.mapping.Declares "abc" ∧
          site.mapping.complaints "Inbound" = []) := by
  refine ⟨?_, ?_, ?_⟩
  · have surveyed : (Document.parse? ampersandText).map (TextTemplate.survey · .inbound) =
        some [({ fields := [{ id := "R&D" }], templates := [{ text := "%R&amp;D%" }] },
          [some "%R&D%"])] :=
      (congrArg _ (Document.parse?_ofList _)).trans (by decide +kernel)
    obtain ⟨site, mapping, template, characters, -⟩ :=
      TextTemplate.exists_of_survey rfl surveyed
    refine ⟨site, ?_⟩
    rw [mapping, template, characters]
    decide +kernel
  · have surveyed : (Document.parse? bracketText).map (TextTemplate.survey · .inbound) =
        some [({ templates :=
          [{ text := "&lt;&lt;x&gt;&gt;", opening := "<<", closing := ">>" }] },
            [some "<<x>>"])] :=
      (congrArg _ (Document.parse?_ofList _)).trans (by decide +kernel)
    obtain ⟨site, mapping, template, characters, -⟩ :=
      TextTemplate.exists_of_survey rfl surveyed
    refine ⟨site, ?_⟩
    rw [mapping, template, characters]
    decide +kernel
  · have surveyed : (Document.parse? overlapText).map (TextTemplate.survey · .inbound) =
        some [({ fields := [{ id := "a" }], templates := [{ text := "%abcb", closing := "b" }] },
          [some "%abcb"])] :=
      (congrArg _ (Document.parse?_ofList _)).trans (by decide +kernel)
    obtain ⟨site, mapping, template, characters, -⟩ :=
      TextTemplate.exists_of_survey rfl surveyed
    refine ⟨site, ?_⟩
    rw [mapping, template, characters]
    decide +kernel

end

end IssueSync
