import IssueSync.Proofs.Loading.Outcome
import IssueSync.Proofs.Reading.ConfigurationPlaces

/-! # Documents put together

What is read of a document whose top element is `configurations` is read of the
elements in it one after the other (`Collects.configurationsIn?_eq`), a table of
more configurations has their claims on top (`ProjectTable.get?_append`), and the
message about more configurations is longer in each direction
(`messageAbout_append`). So the outcome of loading the elements of two
documents as one document follows from the outcomes of the two
(`load_of_joined`).
-/

namespace IssueSync

open Xml (Document Node Scope)

/-! ### What a document collects -/

/-- The text is a document whose top element is `configurations`, with these
declarations and this content. -/
def Collects (text : String) (declared : Scope) (content : List Node) : Prop :=
  ∃ document name attributes, Document.parse? text = some document ∧
    document.nodes.filter Node.isElement = [.element name declared attributes content] ∧
    name.localName = "configurations"

/-- The configurations in the content of an element `configurations` at the top
that makes these declarations. -/
def collected (declared : Scope) (content : List Node) : List Configuration :=
  (configurationPlacesInside true (Scope.extend [] declared) content).map readConfiguration

/-- What is read of the text of a list of configurations. -/
theorem Collects.configurationsIn?_eq {text : String} {declared : Scope} {content : List Node}
    (collects : Collects text declared content) :
    configurationsIn? text = some (collected declared content) := by
  obtain ⟨document, name, attributes, parsed, top, named⟩ := collects
  have other : name.localName ≠ "configuration" := by
    rw [named]
    decide
  have places : configurationPlacesInside false [] document.nodes =
      configurationPlacesInside true (Scope.extend [] declared) content := by
    rw [← configurationPlacesInside_filter_isElement, top, configurationPlacesInside,
      configurationPlaces_of_ne other, named, configurationPlacesInside, List.append_nil]
    rfl
  rw [configurationsIn?, parsed, Option.map_some, readConfigurations, places, collected]

/-- Only the elements count, and each on its own. -/
theorem collected_eq_append {declared : Scope} {content first second : List Node}
    (elements : content.filter Node.isElement = (first ++ second).filter Node.isElement) :
    collected declared content = collected declared first ++ collected declared second := by
  rw [collected, ← configurationPlacesInside_filter_isElement, elements,
    configurationPlacesInside_filter_isElement, configurationPlacesInside_append, List.map_append]
  rfl

/-! ### More configurations -/

/-- Later configurations go before earlier ones. -/
theorem ProjectTable.get?_append (first second : List Configuration) (key : String) :
    (ofConfigurations (first ++ second)).get? key =
      ((ofConfigurations second).get? key).or ((ofConfigurations first).get? key) := by
  simp only [get?_ofConfigurations, List.reverse_append, List.find?_append]

/-- The message for which a document is refused; empty when it is loaded. -/
def messageOf : Except LoadError ProjectTable → String
  | .error (.invalid message) => message
  | _ => ""

section

variable [Libraries]

/-- Configurations resolve together when they do on their own: a mapping only looks at its
own fields. -/
theorem resolved_append {first second : List Configuration} :
    Resolved (first ++ second) ↔ Resolved first ∧ Resolved second :=
  List.forall_mem_append

/-- The part of the message about configurations that is about mappings of one
direction. -/
def messageAbout (direction : Direction) (configurations : List Configuration) : String :=
  String.join (sentences direction configurations)

/-- What is said of more configurations comes behind what is said of the others. -/
theorem messageAbout_append (direction : Direction) (first second : List Configuration) :
    messageAbout direction (first ++ second) =
      messageAbout direction first ++ messageAbout direction second := by
  rw [messageAbout, sentences, List.flatMap_append, String.join_append]
  rfl

/-- A message is its inbound part and its outbound part. -/
theorem complaintMessage_eq (configurations : List Configuration) :
    complaintMessage (allComplaints configurations) =
      messageAbout .inbound configurations ++ messageAbout .outbound configurations := by
  rw [complaintMessage_allComplaints, String.join_append]
  rfl

/-- The message has what is wrong with inbound mappings before what is wrong with outbound
ones, and is empty when nothing is. -/
theorem messageOf_publish (configurations : List Configuration) :
    messageOf (publish configurations) =
      messageAbout .inbound configurations ++ messageAbout .outbound configurations := by
  rw [publish_eq, ← complaintMessage_eq]
  split
  · next none =>
      rw [none]
      rfl
  · rfl

/-- A table comes out when all placeholders resolve. -/
theorem exists_publish_eq_ok_iff {configurations : List Configuration} :
    (∃ table, publish configurations = .ok table) ↔ Resolved configurations := by
  simp only [publish_eq_ok_iff, exists_and_left, exists_eq, and_true]

/-- **Loading is compositional.** Let the top elements `configurations` of three
documents make the same declarations, and let the elements in the third be those
in the first followed by those in the second. Then its configurations are those
of the first followed by those of the second. It is loaded exactly when both
are, and each key leads where it leads in the table of the second, or else in
that of the first. Where it is refused, the message consists of the inbound
parts of the messages of both and then of their outbound parts. -/
theorem load_of_joined {first second whole : String} {declared : Scope}
    {firstContent secondContent content : List Node}
    (firstCollects : Collects first declared firstContent)
    (secondCollects : Collects second declared secondContent)
    (wholeCollects : Collects whole declared content)
    (elements : content.filter Node.isElement =
      (firstContent ++ secondContent).filter Node.isElement) :
    ∃ firstRead secondRead, configurationsIn? first = some firstRead ∧
      configurationsIn? second = some secondRead ∧
      configurationsIn? whole = some (firstRead ++ secondRead) ∧
      ((∃ table, load whole = .ok table) ↔
        (∃ table, load first = .ok table) ∧ ∃ table, load second = .ok table) ∧
      (∀ table firstTable secondTable, load whole = .ok table → load first = .ok firstTable →
        load second = .ok secondTable →
        ∀ key, table.get? key = (secondTable.get? key).or (firstTable.get? key)) ∧
      (∀ error, load whole = .error error → error = .invalid
        (messageAbout .inbound firstRead ++ messageAbout .inbound secondRead ++
          (messageAbout .outbound firstRead ++ messageAbout .outbound secondRead))) ∧
      messageOf (load first) =
        messageAbout .inbound firstRead ++ messageAbout .outbound firstRead ∧
      messageOf (load second) =
        messageAbout .inbound secondRead ++ messageAbout .outbound secondRead := by
  have firstRead := firstCollects.configurationsIn?_eq
  have secondRead := secondCollects.configurationsIn?_eq
  have wholeRead := wholeCollects.configurationsIn?_eq
  rw [collected_eq_append elements] at wholeRead
  generalize collected declared firstContent = front at firstRead wholeRead
  generalize collected declared secondContent = back at secondRead wholeRead
  rw [load_of_configurations firstRead, load_of_configurations secondRead,
    load_of_configurations wholeRead]
  refine ⟨front, back, firstRead, secondRead, wholeRead, ?_, ?_, ?_, messageOf_publish front,
    messageOf_publish back⟩
  · rw [exists_publish_eq_ok_iff, exists_publish_eq_ok_iff, exists_publish_eq_ok_iff,
      resolved_append]
  · intro table firstTable secondTable published firstPublished secondPublished key
    rw [publish_eq_ok_iff] at published firstPublished secondPublished
    rw [published.2, firstPublished.2, secondPublished.2, ProjectTable.get?_append]
  · intro error refused
    obtain ⟨-, rfl⟩ := publish_eq_error_iff.mp refused
    rw [complaintMessage_eq, messageAbout_append, messageAbout_append]

end

/-- Two configurations, one inside the other, with a placeholder of no field in
each direction. The lines end inside tags. -/
def nestedFaultsText : String :=
  "<configurations> <configuration><mappings
    ><mappingOut><templateFields><templateField><template>%o%</template></templateField
    ></templateFields></mappingOut></mappings
    ><configuration><mappings
    ><mappingIn><templateFields><templateField><template>%i%</template></templateField
    ></templateFields></mappingIn></mappings></configuration></configuration> </configurations>"

/-- One configuration with a placeholder of no field in each direction. -/
def faultsText : String :=
  "<!--c--><configurations> <configuration><mappings
    ><mappingOut><templateFields><templateField><template>%p%</template></templateField
    ></templateFields></mappingOut
    ><mappingIn><templateFields><templateField><template>%j%</template></templateField
    ></templateFields></mappingIn></mappings></configuration></configurations>"

/-- The configurations of both documents, with one text between them. -/
def joinedFaultsText : String :=
  "<configurations> <configuration><mappings
    ><mappingOut><templateFields><templateField><template>%o%</template></templateField
    ></templateFields></mappingOut></mappings
    ><configuration><mappings
    ><mappingIn><templateFields><templateField><template>%i%</template></templateField
    ></templateFields></mappingIn></mappings></configuration></configuration>  <configuration
    ><mappings
    ><mappingOut><templateFields><templateField><template>%p%</template></templateField
    ></templateFields></mappingOut
    ><mappingIn><templateFields><templateField><template>%j%</template></templateField
    ></templateFields></mappingIn></mappings></configuration></configurations>"

/-- An element without a namespace, declarations and attributes. -/
def plainElement (name : String) (content : List Node) : Node :=
  .element ⟨none, name⟩ [] [] content

/-- A mapping that has one template with one placeholder. -/
def faultyMapping (name placeholder : String) : Node :=
  plainElement name [plainElement "templateFields"
    [plainElement "templateField" [plainElement "template" [.text placeholder]]]]

/-- The configurations of the first document. -/
def nestedFaults : Node :=
  plainElement "configuration" [plainElement "mappings" [faultyMapping "mappingOut" "%o%"],
    plainElement "configuration" [plainElement "mappings" [faultyMapping "mappingIn" "%i%"]]]

/-- The configuration of the second document. -/
def faults : Node :=
  plainElement "configuration" [plainElement "mappings"
    [faultyMapping "mappingOut" "%p%", faultyMapping "mappingIn" "%j%"]]

/-- A document whose top element makes no declarations. -/
theorem collects_of_parse? {text : String} {content : List Node} (before : List Node)
    (others : before.filter Node.isElement = [])
    (parsed : Document.parse? text = some ⟨before ++ [plainElement "configurations" content]⟩) :
    Collects text [] content := by
  refine ⟨_, ⟨none, "configurations"⟩, [], parsed, ?_, rfl⟩
  rw [List.filter_append, others]
  rfl

section

attribute [local instance] Libraries.sizeLimited

set_option maxRecDepth 8000 in
/-- The messages of the two documents are interleaved in that of both. -/
theorem load_of_joined_faults :
    Collects nestedFaultsText [] [.text " ", nestedFaults, .text " "] ∧
      Collects faultsText [] [.text " ", faults] ∧
      Collects joinedFaultsText [] [.text " ", nestedFaults, .text "  ", faults] ∧
      load joinedFaultsText = .error (.invalid (
        "Inbound mapping - following items do not contain field declaration: %i%. " ++
        "Inbound mapping - following items do not contain field declaration: %j%. " ++
        ("Outbound mapping - following items do not contain field declaration: %o%. " ++
        "Outbound mapping - following items do not contain field declaration: %p%. "))) := by
  have first : Collects nestedFaultsText [] [.text " ", nestedFaults, .text " "] :=
    collects_of_parse? [] rfl ((Document.parse?_ofList _).trans (by decide +kernel))
  have second : Collects faultsText [] [.text " ", faults] :=
    collects_of_parse? [.comment "c"] rfl ((Document.parse?_ofList _).trans (by decide +kernel))
  have whole : Collects joinedFaultsText [] [.text " ", nestedFaults, .text "  ", faults] :=
    collects_of_parse? [] rfl ((Document.parse?_ofList _).trans (by decide +kernel))
  refine ⟨first, second, whole, ?_⟩
  obtain ⟨firstRead, secondRead, firstFound, secondFound, -, loads, -, refused, -⟩ :=
    load_of_joined first second whole rfl
  cases first.configurationsIn?_eq.symm.trans firstFound
  cases second.configurationsIn?_eq.symm.trans secondFound
  cases outcome : load joinedFaultsText with
  | ok table =>
      obtain ⟨firstLoads, -⟩ := loads.mp ⟨table, outcome⟩
      rw [load_of_configurations firstFound, exists_publish_eq_ok_iff,
        ← allComplaints_eq_nil_iff] at firstLoads
      exact absurd firstLoads (by decide +kernel)
  | error error =>
      rw [refused error outcome]
      refine congrArg (fun message => Except.error (LoadError.invalid message)) ?_
      decide +kernel

end

end IssueSync
