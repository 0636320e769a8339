import IssueSync.Proofs.Loading.Outcome
import IssueSync.Proofs.Xml.DataKept

/-! # Delimiters of any length

A document may give delimiters of any length. With an empty template there are no
placeholders, so such a document is loaded exactly when its delimiters can be matched,
and otherwise the message says why they cannot (`load_delimited`).
-/

namespace IssueSync

open Xml (AllXml Document Node Place SpacesOnly)

/-! ### The document -/

/-- An element without declarations and attributes. -/
def bareElement (name : String) (content : List Node) : Node :=
  .element ⟨none, name⟩ [] [] content

/-- An empty template with an opening delimiter. -/
def emptyTemplate (opening : String) : Node :=
  .element ⟨none, "templateField"⟩ [] [⟨⟨none, "idPrefix"⟩, opening⟩] [bareElement "template" []]

/-- A document with this template and nothing else. -/
def delimited (opening : String) : Document :=
  ⟨[bareElement "configurations" [bareElement "configuration" [bareElement "mappings"
    [bareElement "mappingIn" [bareElement "templateFields" [emptyTemplate opening]]]]]]⟩

/-- What is read of this document. -/
def delimitedConfiguration (opening : String) : Configuration where
  inboundMappings := [{ templates := [{ opening }] }]

/-- An element around an accepted node is accepted. -/
theorem accepted_around {name : String} {node : Node} (named : Xml.IsName name.toList)
    (accepted : node.Accepted []) : (bareElement name [node]).Accepted [] :=
  .element Xml.Scope.sound_nil .nil ⟨named, nofun, fun _ => rfl, nofun, .nil⟩
    (List.forall_mem_singleton.mpr accepted) (List.isChain_singleton node)

/-- A template with a delimiter is accepted when the delimiter has no characters
that are forbidden. -/
theorem accepted_emptyTemplate {opening : String} (characters : AllXml opening.toList) :
    (emptyTemplate opening).Accepted [] := by
  have template : (bareElement "template" []).Accepted [] :=
    .element Xml.Scope.sound_nil .nil ⟨by decide, nofun, fun _ => rfl, nofun, .nil⟩ nofun .nil
  have named : Xml.IsName "idPrefix".toList := by decide
  have ordinary : "idPrefix" ≠ "xmlns" := by decide
  have delimiter : Xml.Attribute.Sound [] ⟨⟨none, "idPrefix"⟩, opening⟩ :=
    ⟨named, ordinary, nofun, characters⟩
  exact .element Xml.Scope.sound_nil .nil
    ⟨by decide, nofun, fun _ => rfl, List.forall_mem_singleton.mpr delimiter,
      List.pairwise_singleton _ _⟩
    (List.forall_mem_singleton.mpr template) (List.isChain_singleton _)

/-- So is the document. -/
theorem accepted_delimited {opening : String} (characters : AllXml opening.toList) :
    (delimited opening).Accepted where
  nodes := List.forall_mem_singleton.mpr <|
    accepted_around (by decide) <| accepted_around (by decide) <| accepted_around (by decide) <|
      accepted_around (by decide) <| accepted_around (by decide) <|
        accepted_emptyTemplate characters
  noText := List.forall_mem_singleton.mpr rfl
  single := rfl

/-- Of an empty template nothing is read but its delimiter. -/
theorem readTemplate_emptyTemplate {opening : String} (filled : opening ≠ "") :
    readTemplate ⟨[], emptyTemplate opening⟩ = { opening } := by
  have delimiter : (emptyTemplate opening).filledAttribute? "idPrefix" = some opening :=
    if_pos (decide_eq_true filled)
  have others : readCorrespondence ⟨[], emptyTemplate opening⟩ = {} := rfl
  have closing : (emptyTemplate opening).filledAttribute? "idSuffix" = none := rfl
  have saved : (emptyTemplate opening).filledAttribute? "alwaysSave" = none := rfl
  have template : Place.child? ⟨[], emptyTemplate opening⟩ "template" =
      some ⟨[], bareElement "template" []⟩ := rfl
  have text : Place.contentMarkup ⟨[], bareElement "template" []⟩ = "" := by decide +kernel
  rw [readTemplate, delimiter, others, closing, saved, template, Option.map_some, text]
  rfl

/-- An opening delimiter that is kept in an attribute value is read. -/
theorem configurationsIn?_delimited {opening : String} (characters : AllXml opening.toList)
    (spaces : SpacesOnly opening) (filled : opening ≠ "") :
    configurationsIn? (delimited opening).markup = some [delimitedConfiguration opening] := by
  have kept : ∀ datum ∈ (delimited opening).data, datum.Kept :=
    List.forall_mem_singleton.mpr spaces
  have parsed : Document.parse? (delimited opening).markup = some (delimited opening) :=
    (accepted_delimited characters).parse?_markup_of_kept (of_decide_eq_true rfl) kept
  have read : readConfigurations (delimited opening) =
      [{ inboundMappings := [{ templates := [readTemplate ⟨[], emptyTemplate opening⟩] }] }] := rfl
  rw [configurationsIn?, parsed, Option.map_some, read, readTemplate_emptyTemplate filled]
  rfl

/-! ### Loading it -/

/-- There are no placeholders in an empty text. -/
theorem occurrences_of_empty {opening : String} (filled : opening ≠ "") :
    Template.occurrences { opening } = [] := by
  have nothing : readPlaceholder? opening.toList defaultDelimiter.toList [] = none := by
    rw [readPlaceholder?, Text.afterStart?_eq_none_iff.mpr]
    · rfl
    · rw [List.prefix_nil, String.toList_eq_nil_iff]
      exact filled
  rw [Template.occurrences, String.toList_empty, placeholderIds]
  · rfl
  · exact nothing

/-- **Delimiters decide.** A document with an empty template is loaded when placeholders
between its delimiters can be found, and refused with the reason when they cannot. -/
theorem load_delimited [Libraries] {opening : String} (characters : AllXml opening.toList)
    (spaces : SpacesOnly opening) (filled : opening ≠ "") :
    load (delimited opening).markup =
      match Libraries.delimiterReason? opening "%" with
      | none => .ok (ProjectTable.ofConfigurations [delimitedConfiguration opening])
      | some reason => .error (.invalid
          (Complaint.sentence ⟨"Inbound", .unmatched opening "%" reason⟩)) := by
  rw [load_of_configurations (configurationsIn?_delimited characters spaces filled)]
  cases given : Libraries.delimiterReason? opening "%" with
  | none =>
      have accepted : Template.refusal? { opening } = none := given
      apply publish_of_resolved
      intro configuration listed direction mapping inConfiguration template inMapping
      rw [List.mem_singleton.mp listed] at inConfiguration
      cases direction with
      | outbound => cases inConfiguration
      | inbound =>
          rw [List.mem_singleton.mp inConfiguration] at inMapping ⊢
          rw [List.mem_singleton.mp inMapping, occurrences_of_empty filled]
          exact ⟨accepted, nofun⟩
  | some reason =>
      have refused : Template.refusal? { opening } = some reason := given
      have cause (declared : TextSet) :
          Template.cause? { opening } declared = some (.unmatched opening "%" reason) := by
        rw [Template.cause?, refused]
        rfl
      have complaints : allComplaints [delimitedConfiguration opening] =
          [⟨"Inbound", .unmatched opening "%" reason⟩] := by
        simp [allComplaints, complaintsAbout, delimitedConfiguration, Configuration.mappings,
          Mapping.complaints, cause, Direction.label]
      rw [publish_eq, complaints, if_neg (List.cons_ne_nil _ _), complaintMessage,
        List.map_singleton, String.join_cons, String.join_nil, String.append_empty]

/-! ### Delimiters that are too long -/

/-- A delimiter of so many characters. -/
def letters (count : Nat) : String := String.ofList (List.replicate count 'x')

theorem eq_of_mem_letters {count : Nat} {character : Char}
    (member : character ∈ (letters count).toList) : character = 'x' := by
  rw [letters, String.toList_ofList] at member
  exact List.eq_of_mem_replicate member

/-- Each letter is one byte. -/
theorem utf8ByteSize_letters (count : Nat) : (letters count).utf8ByteSize = count := by
  induction count with
  | zero => rfl
  | succ count ih =>
      rw [letters] at ih ⊢
      rw [List.replicate_succ, String.ofList_cons, String.utf8ByteSize_append, ih,
        String.utf8ByteSize_singleton, Nat.add_comm]
      rfl

section

attribute [local instance] Libraries.sizeLimited

/-- From some number of characters on the pattern for a delimiter is too large. -/
theorem delimiterReason?_letters {count : Nat} (many : 327680 ≤ count) :
    Libraries.delimiterReason? (letters count) "%" =
      some "Compiled regex exceeds size limit of 10485760 bytes." := by
  have tooLarge : Libraries.isOversized (letters count) "%" = true := by
    rw [Libraries.isOversized, utf8ByteSize_letters]
    exact decide_eq_true (show 10485760 < 32 * (count + 1) by omega)
  exact (if_pos tooLarge).trans rfl

/-- With a delimiter that is too long a document is refused, although every placeholder
in it names a field, for there is none. -/
theorem refused_letters {count : Nat} (many : 327680 ≤ count) :
    configurationsIn? (delimited (letters count)).markup =
        some [delimitedConfiguration (letters count)] ∧
      (∀ direction, ∀ mapping ∈ (delimitedConfiguration (letters count)).mappings direction,
        ∀ template ∈ mapping.templates, ∀ occurrence ∈ template.occurrences,
          mapping.Declares occurrence.id) ∧
      load (delimited (letters count)).markup = .error (.invalid
        ("Inbound mapping - placeholder delimiters '" ++ letters count ++
          "' and '%' cannot be matched: " ++
            "Compiled regex exceeds size limit of 10485760 bytes.. ")) := by
  have characters : AllXml (letters count).toList := fun character member => by
    rw [eq_of_mem_letters member]
    decide
  have spaces : SpacesOnly (letters count) := fun character member space => by
    rw [eq_of_mem_letters member] at space
    cases space
  have filled : letters count ≠ "" := by
    intro empty
    have size := utf8ByteSize_letters count
    rw [empty, String.utf8ByteSize_empty] at size
    omega
  refine ⟨configurationsIn?_delimited characters spaces filled, ?_, ?_⟩
  · intro direction mapping inConfiguration template inMapping
    cases direction with
    | outbound => cases inConfiguration
    | inbound =>
        rw [List.mem_singleton.mp inConfiguration] at inMapping
        rw [List.mem_singleton.mp inMapping, occurrences_of_empty filled]
        nofun
  · rw [load_delimited characters spaces filled, delimiterReason?_letters many]
    simp [Complaint.sentence, ← String.toList_inj]

/-- A delimiter of 400000 characters is too long. -/
theorem refused_fourHundredThousandLetters :
    configurationsIn? (delimited (letters 400000)).markup =
        some [delimitedConfiguration (letters 400000)] ∧
      (∀ direction, ∀ mapping ∈ (delimitedConfiguration (letters 400000)).mappings direction,
        ∀ template ∈ mapping.templates, ∀ occurrence ∈ template.occurrences,
          mapping.Declares occurrence.id) ∧
      ¬ ∃ table, load (delimited (letters 400000)).markup = .ok table := by
  obtain ⟨read, declared, refused⟩ := @refused_letters 400000 (by decide)
  refine ⟨read, declared, ?_⟩
  rintro ⟨table, loaded⟩
  rw [refused] at loaded
  cases loaded

end

end IssueSync
