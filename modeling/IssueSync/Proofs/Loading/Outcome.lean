import IssueSync.Table.Loading

/-! # What becomes of a document

The pass through the configurations visits inbound and outbound mappings in
turn, yet each direction ends up with its own complaints in document order
(`Findings.of_about`). A mapping gives a complaint for each template with
placeholders that name none of its own fields, or with delimiters between which no
placeholders can be found (`Mapping.map_sentence_complaints`). So a document is
loaded exactly when there are no such templates, and otherwise the error names them
all (`load_outcome`).
-/

namespace IssueSync

/-! ### Declared identifiers -/

namespace Mapping

/-- The identifier is that of a field of the mapping, on its own or in a
group. -/
def Declares (mapping : Mapping) (id : String) : Prop :=
  (∃ field ∈ mapping.fields, field.id = some id) ∨
    ∃ group ∈ mapping.groups, ∃ field ∈ group.fields, field.id = some id

instance (mapping : Mapping) (id : String) : Decidable (mapping.Declares id) :=
  inferInstanceAs (Decidable (_ ∨ _))

/-- Fields on their own and in groups are declared alike. -/
theorem declares_iff {mapping : Mapping} {id : String} :
    mapping.Declares id ↔ ∃ field ∈ mapping.allFields, field.id = some id := by
  simp only [Declares, allFields, List.mem_append, List.mem_flatMap]
  constructor
  · rintro (⟨field, single, named⟩ | ⟨group, member, field, inner, named⟩)
    · exact ⟨field, .inl single, named⟩
    · exact ⟨field, .inr ⟨group, member, inner⟩, named⟩
  · rintro ⟨field, single | ⟨group, member, inner⟩, named⟩
    · exact .inl ⟨field, single, named⟩
    · exact .inr ⟨group, member, field, inner, named⟩

/-- The set of identifiers that placeholders are looked up in. -/
theorem mem_declaredIds {mapping : Mapping} {id : String} :
    id ∈ mapping.declaredIds ↔ mapping.Declares id := by
  rw [declaredIds, TextSet.mem_ofList, fieldIds, List.mem_filterMap, declares_iff]

/-- The unresolved placeholders are those whose identifiers no field has. -/
theorem unresolved_declaredIds (mapping : Mapping) (template : Template) :
    template.unresolved mapping.declaredIds =
      (template.occurrences.filter fun occurrence => ¬ mapping.Declares occurrence.id).map
        Occurrence.text := by
  simp only [Template.unresolved, mem_declaredIds]

end Mapping

/-! ### Messages -/

/-- No sentence is empty. -/
theorem Complaint.sentence_ne_empty (complaint : Complaint) : complaint.sentence ≠ "" := by
  obtain ⟨label, unresolved | unmatched⟩ := complaint
  · simp [sentence]
  · simp [sentence]

/-- The message about more complaints is longer by their sentences. -/
theorem complaintMessage_append (first second : List Complaint) :
    complaintMessage (first ++ second) = complaintMessage first ++ complaintMessage second := by
  rw [complaintMessage, List.map_append, String.join_append]
  rfl

/-- Where there are complaints there is a message. -/
theorem complaintMessage_eq_empty_iff {complaints : List Complaint} :
    complaintMessage complaints = "" ↔ complaints = [] := by
  cases complaints with
  | nil => exact iff_of_true rfl rfl
  | cons first rest =>
      rw [complaintMessage, List.map_cons, String.join_cons, String.append_eq_empty_iff]
      exact iff_of_false (fun both => first.sentence_ne_empty both.1) (List.cons_ne_nil _ _)

namespace Findings

/-- What was found about mappings of a direction. -/
def of (findings : Findings) : Direction → String
  | .inbound => findings.inbound
  | .outbound => findings.outbound

/-- A message about a direction is added to what was found about it. -/
theorem of_add (findings : Findings) (direction other : Direction) (message : String) :
    (findings.add direction message).of other =
      findings.of other ++ if direction = other then message else "" := by
  cases direction <;> cases other <;> simp [add, of]

end Findings

/-! ### Complaints about one mapping -/

section

variable [Libraries]

namespace Mapping

/-- The sentence about a template of the mapping, if its delimiters cannot be matched
or any of its placeholders names no field of the mapping. -/
def sentence? (mapping : Mapping) (label : String) (template : Template) : Option String :=
  match template.refusal? with
  | some reason =>
      some (label ++ " mapping - placeholder delimiters '" ++ template.opening ++ "' and '" ++
        template.closing ++ "' cannot be matched: " ++ reason ++ ". ")
  | none =>
      let undeclared := template.occurrences.filter fun occurrence =>
        ¬ mapping.Declares occurrence.id
      if undeclared = [] then none
      else some (label ++ " mapping - following items do not contain field declaration: " ++
        ", ".intercalate (undeclared.map Occurrence.text) ++ ". ")

/-- The complaints put into words are the sentences about the templates. -/
theorem map_sentence_complaints (mapping : Mapping) (label : String) :
    (mapping.complaints label).map Complaint.sentence =
      mapping.templates.filterMap (mapping.sentence? label) := by
  rw [complaints, List.map_map, List.map_filterMap]
  refine congrArg (List.filterMap · mapping.templates) (funext fun template => ?_)
  rw [Template.cause?, sentence?]
  cases template.refusal? with
  | some reason => rfl
  | none =>
      dsimp only
      rw [unresolved_declaredIds]
      cases template.occurrences.filter fun occurrence => ¬ mapping.Declares occurrence.id with
      | nil => rfl
      | cons first rest => rfl

/-- The templates of the mapping have delimiters that can be matched, and every
placeholder in them names one of its fields. -/
def Resolved (mapping : Mapping) : Prop :=
  ∀ template ∈ mapping.templates, template.refusal? = none ∧
    ∀ occurrence ∈ template.occurrences, mapping.Declares occurrence.id

/-- There is no sentence about a template when its delimiters can be matched and its
placeholders resolve. -/
theorem sentence?_eq_none_iff {mapping : Mapping} {label : String} {template : Template} :
    mapping.sentence? label template = none ↔ template.refusal? = none ∧
      ∀ occurrence ∈ template.occurrences, mapping.Declares occurrence.id := by
  rw [sentence?]
  cases template.refusal? with
  | some reason => simp
  | none => simp

/-- There are no complaints exactly when all templates of the mapping are resolved. -/
theorem complaints_eq_nil_iff (mapping : Mapping) (label : String) :
    mapping.complaints label = [] ↔ mapping.Resolved := by
  rw [← List.map_eq_nil_iff (f := Complaint.sentence), map_sentence_complaints,
    List.filterMap_eq_nil_iff]
  exact forall₂_congr fun template _ => sentence?_eq_none_iff

/-- Validation gives the message of the complaints, if there are any. -/
theorem getD_validate (mapping : Mapping) (label : String) :
    (mapping.validate label).getD "" = complaintMessage (mapping.complaints label) := by
  rw [validate]
  split
  · next empty => exact empty.symm
  · rfl

/-- Validation passes exactly when all templates of the mapping are resolved. -/
theorem validate_eq_none_iff {mapping : Mapping} {label : String} :
    mapping.validate label = none ↔ mapping.Resolved := by
  rw [← complaints_eq_nil_iff mapping label, ← complaintMessage_eq_empty_iff, validate]
  simp

end Mapping

/-! ### The pass through the configurations -/

namespace Findings

/-- A mapping adds its complaints to its direction. -/
theorem of_check (direction other : Direction) (findings : Findings) (mapping : Mapping) :
    (check direction findings mapping).of other = findings.of other ++
      if direction = other then complaintMessage (mapping.complaints direction.label) else "" := by
  rw [check, ← mapping.getD_validate]
  cases mapping.validate direction.label with
  | some message => exact of_add findings direction other message
  | none => simp

/-- Mappings one after the other add their complaints to their direction, in order. -/
theorem of_foldl_check (direction other : Direction) (mappings : List Mapping)
    (findings : Findings) :
    (mappings.foldl (check direction) findings).of other = findings.of other ++
      if direction = other then
        complaintMessage (mappings.flatMap (·.complaints direction.label)) else "" := by
  induction mappings generalizing findings with
  | nil => simp [complaintMessage]
  | cons mapping rest ih =>
      rw [List.foldl_cons, ih, of_check, List.flatMap_cons, complaintMessage_append]
      split
      · exact String.append_assoc
      · simp

/-- A configuration adds its complaints to both directions. -/
theorem of_visit (findings : Findings) (configuration : Configuration) (direction : Direction) :
    (findings.visit configuration).of direction = findings.of direction ++
      complaintMessage
        ((configuration.mappings direction).flatMap (·.complaints direction.label)) := by
  rw [visit, List.foldl_cons, List.foldl_cons, List.foldl_nil, visitDirection, visitDirection,
    of_foldl_check, of_foldl_check]
  cases direction <;> simp

end Findings

/-- The complaints about the mappings of one direction, in document order. -/
def complaintsAbout (direction : Direction) (configurations : List Configuration) :
    List Complaint :=
  configurations.flatMap fun configuration =>
    (configuration.mappings direction).flatMap (·.complaints direction.label)

namespace Findings

/-- A pass through configurations adds their complaints to each direction, in order. -/
theorem of_foldl_visit (findings : Findings) (configurations : List Configuration)
    (direction : Direction) :
    (configurations.foldl visit findings).of direction =
      findings.of direction ++ complaintMessage (complaintsAbout direction configurations) := by
  induction configurations generalizing findings with
  | nil => simp [complaintsAbout, complaintMessage]
  | cons configuration rest ih =>
      rw [List.foldl_cons, ih, of_visit, String.append_assoc, ← complaintMessage_append]
      rfl

/-- After the pass, each direction has its complaints in document order. -/
theorem of_about (configurations : List Configuration) (direction : Direction) :
    (about configurations).of direction =
      complaintMessage (complaintsAbout direction configurations) := by
  rw [about, of_foldl_visit]
  cases direction <;> simp [of]

end Findings

/-- All complaints about a list of configurations, those about inbound mappings
first. -/
def allComplaints (configurations : List Configuration) : List Complaint :=
  complaintsAbout .inbound configurations ++ complaintsAbout .outbound configurations

/-! ### The outcome -/

/-- Every template of every configuration has delimiters that can be matched, and
every placeholder in it names a field of its mapping. -/
def Resolved (configurations : List Configuration) : Prop :=
  ∀ configuration ∈ configurations, ∀ direction, ∀ mapping ∈ configuration.mappings direction,
    mapping.Resolved

/-- The sentences about the mappings of one direction, in document order. -/
def sentences (direction : Direction) (configurations : List Configuration) : List String :=
  configurations.flatMap fun configuration =>
    (configuration.mappings direction).flatMap fun mapping =>
      mapping.templates.filterMap (mapping.sentence? direction.label)

/-- The complaints about a direction put into words. -/
theorem map_sentence_complaintsAbout (direction : Direction)
    (configurations : List Configuration) :
    (complaintsAbout direction configurations).map Complaint.sentence =
      sentences direction configurations := by
  simp only [complaintsAbout, sentences, List.map_flatMap, Mapping.map_sentence_complaints]

/-- There are no complaints about a direction exactly when its mappings are resolved. -/
theorem complaintsAbout_eq_nil_iff (direction : Direction) (configurations : List Configuration) :
    complaintsAbout direction configurations = [] ↔
      ∀ configuration ∈ configurations, ∀ mapping ∈ configuration.mappings direction,
        mapping.Resolved := by
  simp only [complaintsAbout, List.flatMap_eq_nil_iff, Mapping.complaints_eq_nil_iff]

/-- There are no complaints at all exactly when all mappings are resolved. -/
theorem allComplaints_eq_nil_iff (configurations : List Configuration) :
    allComplaints configurations = [] ↔ Resolved configurations := by
  rw [allComplaints, List.append_eq_nil_iff, complaintsAbout_eq_nil_iff,
    complaintsAbout_eq_nil_iff]
  constructor
  · rintro ⟨inbound, outbound⟩ configuration member direction
    cases direction with
    | inbound => exact inbound configuration member
    | outbound => exact outbound configuration member
  · intro resolved
    exact ⟨fun configuration member => resolved configuration member .inbound,
      fun configuration member => resolved configuration member .outbound⟩

/-- The message of all complaints: the sentences about inbound mappings, then those
about outbound ones. -/
theorem complaintMessage_allComplaints (configurations : List Configuration) :
    complaintMessage (allComplaints configurations) =
      String.join (sentences .inbound configurations ++ sentences .outbound configurations) := by
  rw [complaintMessage, allComplaints, List.map_append, map_sentence_complaintsAbout,
    map_sentence_complaintsAbout]

/-- A table is published unless there are complaints. -/
theorem publish_eq (configurations : List Configuration) :
    publish configurations =
      if allComplaints configurations = [] then .ok (ProjectTable.ofConfigurations configurations)
      else .error (.invalid (complaintMessage (allComplaints configurations))) := by
  have inbound : (Findings.about configurations).inbound =
      complaintMessage (complaintsAbout .inbound configurations) :=
    Findings.of_about configurations .inbound
  have outbound : (Findings.about configurations).outbound =
      complaintMessage (complaintsAbout .outbound configurations) :=
    Findings.of_about configurations .outbound
  rw [publish, inbound, outbound, allComplaints, complaintMessage_append]
  simp only [complaintMessage_eq_empty_iff, List.append_eq_nil_iff]

/-- Resolved configurations make a table. -/
theorem publish_of_resolved {configurations : List Configuration}
    (resolved : Resolved configurations) :
    publish configurations = .ok (ProjectTable.ofConfigurations configurations) := by
  rw [publish_eq, if_pos ((allComplaints_eq_nil_iff configurations).mpr resolved)]

/-- Other configurations are refused with all complaints. -/
theorem publish_of_not_resolved {configurations : List Configuration}
    (unresolved : ¬ Resolved configurations) :
    publish configurations =
      .error (.invalid (complaintMessage (allComplaints configurations))) := by
  rw [publish_eq, if_neg (unresolved ∘ (allComplaints_eq_nil_iff configurations).mp)]

/-- Which table comes out, and when. -/
theorem publish_eq_ok_iff {configurations : List Configuration} {table : ProjectTable} :
    publish configurations = .ok table ↔
      Resolved configurations ∧ table = ProjectTable.ofConfigurations configurations := by
  by_cases resolved : Resolved configurations
  · rw [publish_of_resolved resolved, Except.ok.injEq]
    exact ⟨fun same => ⟨resolved, same.symm⟩, fun both => both.2.symm⟩
  · rw [publish_of_not_resolved resolved]
    exact ⟨nofun, fun both => absurd both.1 resolved⟩

/-- Which error comes out, and when. -/
theorem publish_eq_error_iff {configurations : List Configuration} {error : LoadError} :
    publish configurations = .error error ↔ ¬ Resolved configurations ∧
      error = .invalid (complaintMessage (allComplaints configurations)) := by
  by_cases resolved : Resolved configurations
  · rw [publish_of_resolved resolved]
    exact ⟨nofun, fun both => absurd resolved both.1⟩
  · rw [publish_of_not_resolved resolved, Except.error.injEq]
    exact ⟨fun same => ⟨resolved, same.symm⟩, fun both => both.2.symm⟩

/-- A text that is no document is refused with the reason that the parser gives. -/
theorem load_of_unread {text : String} (unread : configurationsIn? text = none) :
    load text = .error (.malformed (Libraries.documentReason text)) := by
  rw [load, unread]

/-- What is read of a document is published. -/
theorem load_of_configurations {text : String} {configurations : List Configuration}
    (read : configurationsIn? text = some configurations) :
    load text = publish configurations := by
  rw [load, read]

/-- A table that was loaded is that of configurations that pass validation. -/
theorem exists_of_load {text : String} {table : ProjectTable} (loaded : load text = .ok table) :
    ∃ configurations, configurationsIn? text = some configurations ∧ Resolved configurations ∧
      table = ProjectTable.ofConfigurations configurations := by
  cases read : configurationsIn? text with
  | none =>
      rw [load_of_unread read] at loaded
      cases loaded
  | some configurations =>
      rw [load_of_configurations read, publish_eq_ok_iff] at loaded
      exact ⟨configurations, rfl, loaded⟩

/-- **Three outcomes.** A text that is no document is malformed. A document is
loaded exactly when every template of each of its configurations has delimiters that
can be matched, and every placeholder names a field of the same mapping; its table
holds the configurations in document order. Any other document is refused with a
sentence for each template that breaks this: for delimiters that cannot be matched it
says why, and otherwise it lists all placeholders without a field in text order. The
sentences about inbound mappings come first, in document order, then those about
outbound ones. -/
theorem load_outcome (text : String) :
    ((∃ reason, load text = .error (.malformed reason)) ↔ configurationsIn? text = none) ∧
      ∀ configurations, configurationsIn? text = some configurations →
        ((∃ table, load text = .ok table) ↔ Resolved configurations) ∧
        (∀ table, load text = .ok table → table.configurations = configurations) ∧
        (¬ Resolved configurations → load text = .error (.invalid (String.join
          (sentences .inbound configurations ++ sentences .outbound configurations)))) := by
  constructor
  · cases read : configurationsIn? text with
    | none => simp [load_of_unread read]
    | some configurations =>
        rw [load_of_configurations read]
        by_cases resolved : Resolved configurations
        · simp [publish_of_resolved resolved]
        · simp [publish_of_not_resolved resolved]
  · intro configurations read
    rw [load_of_configurations read]
    by_cases resolved : Resolved configurations
    · rw [publish_of_resolved resolved]
      refine ⟨⟨fun _ => resolved, fun _ => ⟨_, rfl⟩⟩, ?_, fun broken => absurd resolved broken⟩
      rintro table loaded
      cases loaded
      rfl
    · rw [publish_of_not_resolved resolved]
      refine ⟨⟨?_, fun holds => absurd holds resolved⟩, ?_, fun _ => ?_⟩
      · rintro ⟨table, loaded⟩
        cases loaded
      · intro table loaded
        cases loaded
      · rw [complaintMessage_allComplaints]

end

/-! ### Documents that are refused -/

section

attribute [local instance] Libraries.sizeLimited

/-- A document whose only configuration has no project and, in both directions,
placeholders without a field. -/
def faultyText : String :=
  "<configurations><configuration><mappings>
    <mappingOut><templateFields>
      <templateField><template>%o%</template></templateField>
    </templateFields></mappingOut>
    <mappingIn><fields><field id='a'/></fields><templateFields>
      <templateField><template>%b% %a% %b%</template></templateField>
    </templateFields></mappingIn>
  </mappings></configuration></configurations>"

/-- What is read of this document. -/
def faultyConfiguration : Configuration where
  inboundMappings := [{ fields := [{ id := "a" }], templates := [{ text := "%b% %a% %b%" }] }]
  outboundMappings := [{ direction := .outbound, templates := [{ text := "%o%" }] }]

set_option maxRecDepth 8000 in
/-- The outbound mapping stands first in the document and last in the message. -/
theorem load_outcome_faultyText :
    configurationsIn? faultyText = some [faultyConfiguration] ∧
      ¬ Resolved [faultyConfiguration] ∧
      load faultyText = .error (.invalid (String.join
        ["Inbound mapping - following items do not contain field declaration: %b%, %b%. ",
          "Outbound mapping - following items do not contain field declaration: %o%. "])) := by
  have read : configurationsIn? faultyText = some [faultyConfiguration] :=
    (configurationsIn?_ofList _).trans (by decide +kernel)
  have unresolved : ¬ Resolved [faultyConfiguration] := by
    rw [← allComplaints_eq_nil_iff]
    decide +kernel
  have wording : sentences .inbound [faultyConfiguration] ++
      sentences .outbound [faultyConfiguration] =
        ["Inbound mapping - following items do not contain field declaration: %b%, %b%. ",
          "Outbound mapping - following items do not contain field declaration: %o%. "] := by
    decide +kernel
  exact ⟨read, unresolved, wording ▸ ((load_outcome faultyText).2 _ read).2.2 unresolved⟩

end

end IssueSync
