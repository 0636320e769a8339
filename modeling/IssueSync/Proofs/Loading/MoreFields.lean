import IssueSync.Proofs.Loading.Outcome

/-! # Mappings with more fields

A field is found by its identifier exactly when the identifier may be referred to
(`Mapping.isSome_fieldWithId?`), wherever among the fields it stands. So the
check of a mapping depends on nothing but its templates and the identifiers of
its fields, and further fields only take occurrences off the complaints
(`Mapping.validate_of_more_fields`).
-/

namespace IssueSync

/-- The occurrences in a template text whose identifiers are not declared. -/
def Template.unresolvedOccurrences (template : Template) (declared : TextSet) : List Occurrence :=
  template.occurrences.filter fun occurrence => occurrence.id ∉ declared

/-- The unresolved placeholders are the texts of these occurrences. -/
theorem Template.unresolved_eq_map (template : Template) (declared : TextSet) :
    template.unresolved declared =
      (template.unresolvedOccurrences declared).map Occurrence.text := rfl

namespace Mapping

variable {mapping first second : Mapping} {id : String}

/-- A field is found by the identifiers that may be referred to. -/
theorem isSome_fieldWithId? : (mapping.fieldWithId? id).isSome ↔ id ∈ mapping.declaredIds := by
  rw [mem_declaredIds, declares_iff, fieldWithId?, List.find?_isSome]
  simp only [decide_eq_true_eq]

/-- No field is found for an identifier that is not declared. -/
theorem fieldWithId?_eq_none_iff : mapping.fieldWithId? id = none ↔ id ∉ mapping.declaredIds := by
  rw [← isSome_fieldWithId?, Option.not_isSome_iff_eq_none]

/-- Identifiers are declared by having a field, however often. -/
theorem mem_declaredIds_iff_mem_fieldIds : id ∈ mapping.declaredIds ↔ id ∈ mapping.fieldIds :=
  TextSet.mem_ofList

/-- Of the occurrences that are unresolved with fewer identifiers, those stay
that have no field. -/
theorem unresolvedOccurrences_of_subset
    (more : ∀ id ∈ first.declaredIds, id ∈ second.declaredIds) (template : Template) :
    template.unresolvedOccurrences second.declaredIds =
      (template.unresolvedOccurrences first.declaredIds).filter fun occurrence =>
        second.fieldWithId? occurrence.id = none := by
  rw [Template.unresolvedOccurrences, Template.unresolvedOccurrences, List.filter_filter]
  refine List.filter_congr fun occurrence _ => ?_
  rw [← Bool.decide_and, decide_eq_decide, fieldWithId?_eq_none_iff]
  exact ⟨fun absent => ⟨absent, fun declared => absent (more _ declared)⟩, And.left⟩

/-- With the same identifiers the same occurrences are unresolved. -/
theorem unresolved_congr (same : ∀ id, id ∈ first.declaredIds ↔ id ∈ second.declaredIds)
    (template : Template) :
    template.unresolved first.declaredIds = template.unresolved second.declaredIds := by
  simp only [Template.unresolved, same]

/-- **More fields, no more complaints.** Let two mappings have the same templates,
and let every identifier that finds a field in the first find one in the second.
Then the occurrences in a text that are unresolved in the second mapping are
those unresolved in the first that find no field in the second, in their order.
So where nothing is wrong with the first mapping nothing is with the second, and
when the two declare the same identifiers they have the same message. -/
theorem validate_of_more_fields [Libraries] (templates : second.templates = first.templates)
    (more : ∀ id, (first.fieldWithId? id).isSome → (second.fieldWithId? id).isSome) :
    (∀ template ∈ first.templates,
        let remaining := (template.unresolvedOccurrences first.declaredIds).filter fun occurrence =>
          second.fieldWithId? occurrence.id = none
        template.unresolvedOccurrences second.declaredIds = remaining ∧
          template.unresolved second.declaredIds = remaining.map Occurrence.text) ∧
      (∀ label other, first.validate label = none → second.validate other = none) ∧
      ((∀ id, (second.fieldWithId? id).isSome → (first.fieldWithId? id).isSome) →
        ∀ label, second.validate label = first.validate label) := by
  simp only [isSome_fieldWithId?] at more ⊢
  refine ⟨fun template _ => ?_, ?_, ?_⟩
  · have remaining := unresolvedOccurrences_of_subset more template
    exact ⟨remaining, by rw [Template.unresolved_eq_map, remaining]⟩
  · intro label other clean
    rw [validate_eq_none_iff] at clean ⊢
    intro template member
    rw [templates] at member
    obtain ⟨accepted, declared⟩ := clean template member
    refine ⟨accepted, fun occurrence found => mem_declaredIds.mp (more occurrence.id ?_)⟩
    exact mem_declaredIds.mpr (declared occurrence found)
  · intro fewer label
    have same : ∀ id, id ∈ second.declaredIds ↔ id ∈ first.declaredIds := fun id =>
      ⟨fewer id, more id⟩
    have complaints : second.complaints label = first.complaints label := by
      simp only [Mapping.complaints, Template.cause?, templates, unresolved_congr same]
    rw [validate, validate, complaints]

/-- A template with placeholders for several fields. -/
def crowdedTemplate : Template := { text := "%b% %c% %a% %b%" }

/-- One of the fields, on its own. -/
def mappingWithField : Mapping where
  fields := [{ id := "a" }]
  templates := [crowdedTemplate, { text := "%a%" }]

/-- The field twice in groups, with another one and one without an identifier. -/
def mappingWithGroups : Mapping where
  groups := [{ fields := [{}, { id := "c" }, { id := "a" }] }, { fields := [{ id := "a" }] }]
  templates := [crowdedTemplate, { text := "%a%" }]

section

attribute [local instance] Libraries.sizeLimited

/-- The further field takes its occurrence off the complaint. -/
theorem validate_of_more_fields_groups :
    mappingWithGroups.templates = mappingWithField.templates ∧
      (∀ id, (mappingWithField.fieldWithId? id).isSome →
        (mappingWithGroups.fieldWithId? id).isSome) ∧
      crowdedTemplate.unresolved mappingWithField.declaredIds = ["%b%", "%c%", "%b%"] ∧
      crowdedTemplate.unresolved mappingWithGroups.declaredIds = ["%b%", "%b%"] := by
  have more : ∀ id, (mappingWithField.fieldWithId? id).isSome →
      (mappingWithGroups.fieldWithId? id).isSome := by
    intro id
    rw [isSome_fieldWithId?, isSome_fieldWithId?, mem_declaredIds_iff_mem_fieldIds,
      mem_declaredIds_iff_mem_fieldIds]
    have listed : ∀ id ∈ mappingWithField.fieldIds, id ∈ mappingWithGroups.fieldIds := by
      decide +kernel
    exact listed id
  have templates : mappingWithGroups.templates = mappingWithField.templates := rfl
  have member : crowdedTemplate ∈ mappingWithField.templates := List.mem_cons_self
  obtain ⟨-, remaining⟩ := (validate_of_more_fields templates more).1 crowdedTemplate member
  exact ⟨templates, more, by decide +kernel, remaining.trans (by decide +kernel)⟩

end

end Mapping

end IssueSync
