import IssueSync.Proofs.Reading.Along

/-! # What is not read

Below a configuration only the paths in `readPaths` are read, by local names.
Everything else can be deleted from a document without a change of its
configurations (`readConfigurations_eq_of_unread`): elements that are on no such
path, all but the first of the elements of which only the first counts, and
comments and processing instructions that are in no template.
-/

namespace IssueSync

open Xml (Frame Node Place Scope)

/-! ### The paths that are read -/

/-- Paths that go on from a start. -/
def pathsFrom (start : List String) (paths : List (List String)) : List (List String) :=
  paths.map (start ++ ·)

/-- The paths in a field. -/
def fieldPaths : List (List String) :=
  [["maps", "map"], ["default"]]

/-- The paths inside a template field. -/
def templateFieldPaths : List (List String) :=
  ["template"] :: fieldPaths

/-- The paths inside a mapping. -/
def mappingPaths : List (List String) :=
  [["connection", "headers", "header"], ["connection", "rdfTypes", "rdfType"]] ++
    pathsFrom ["fields", "field"] fieldPaths ++
    pathsFrom ["xmlFields", "field"] fieldPaths ++
    pathsFrom ["xmlFields", "fields", "field"] fieldPaths ++
    pathsFrom ["templateFields", "templateField"] templateFieldPaths

/-- The paths to the elements of which the text is read. -/
def textPaths : List (List String) :=
  [["projects", "project"], ["issueTypes", "issueType"], ["domains", "domain"]]

/-- The paths that are read below a configuration. -/
def readPaths : List (List String) :=
  ["errorLog"] :: textPaths ++ pathsFrom ["mappings", "mappingIn"] mappingPaths ++
    pathsFrom ["mappings", "mappingOut"] mappingPaths

/-- The paths to the elements of which the markup is read. -/
def templatePaths : List (List String) :=
  readPaths.filter (·.getLast? = some "template")

/-- The elements of which only the first is read. -/
def singleNames : List String :=
  ["errorLog", "connection", "default", "template"]

/-- The names lead along a path that is read. -/
def OnReadPath (names : List String) : Prop :=
  ∃ path ∈ readPaths, names <+: path

/-- The names lead into an element at the end of one of the paths. -/
def Inside (paths : List (List String)) (names : List String) : Prop :=
  ∃ path ∈ paths, path <+: names

/-- Names below a configuration lead to a place where a node is not read, after
these siblings. -/
def Unread (names : List String) (before : List Node) : Node → Prop
  | .element name _ _ _ =>
      ¬ Inside textPaths names ∧ ¬ Inside templatePaths names ∧
        (¬ OnReadPath (names ++ [name.localName]) ∨
          name.localName ∈ singleNames ∧ ∃ sibling ∈ before, sibling.isNamed name.localName)
  | .text _ => ¬ Inside textPaths names ∧ ¬ Inside templatePaths names
  | .comment _ => ¬ Inside templatePaths names
  | .instruction _ _ => ¬ Inside templatePaths names

instance (names : List String) : Decidable (OnReadPath names) :=
  inferInstanceAs (Decidable (∃ path ∈ readPaths, names <+: path))

instance (paths : List (List String)) (names : List String) : Decidable (Inside paths names) :=
  inferInstanceAs (Decidable (∃ path ∈ paths, path <+: names))

instance (names : List String) (before : List Node) :
    (node : Node) → Decidable (Unread names before node)
  | .element name _ _ _ =>
      inferInstanceAs (Decidable (¬ Inside textPaths names ∧ ¬ Inside templatePaths names ∧
        (¬ OnReadPath (names ++ [name.localName]) ∨
          name.localName ∈ singleNames ∧ ∃ sibling ∈ before, sibling.isNamed name.localName)))
  | .text _ =>
      inferInstanceAs (Decidable (¬ Inside textPaths names ∧ ¬ Inside templatePaths names))
  | .comment _ => inferInstanceAs (Decidable (¬ Inside templatePaths names))
  | .instruction _ _ => inferInstanceAs (Decidable (¬ Inside templatePaths names))

/-! ### The table of what is read has these paths -/

/-- What is looked up in an element at the end of a path is at the end of a path
that is read; of the elements that can stand there only once the first counts. -/
def Documented (names : List String) : Reading → Prop
  | .part way _ _ =>
      (way.direct → OnReadPath (names ++ [way.item]) ∧
        (way.item ∈ singleNames → way.onlyFirst)) ∧
      ∀ container ∈ way.container.toList,
        OnReadPath (names ++ [container]) ∧ container ∉ singleNames
  | .text => Inside textPaths names
  | .markup => Inside templatePaths names
  | _ => True

instance (names : List String) : (reading : Reading) → Decidable (Documented names reading)
  | .part way _ _ => inferInstanceAs (Decidable
      ((way.direct → OnReadPath (names ++ [way.item]) ∧
          (way.item ∈ singleNames → way.onlyFirst)) ∧
        ∀ container ∈ way.container.toList,
          OnReadPath (names ++ [container]) ∧ container ∉ singleNames))
  | .text => inferInstanceAs (Decidable (Inside textPaths names))
  | .markup => inferInstanceAs (Decidable (Inside templatePaths names))
  | .nothing => inferInstanceAs (Decidable True)
  | .attributes => inferInstanceAs (Decidable True)

/-- All parts of a configuration keep to the paths. -/
theorem documented_of_mem_reached :
    ∀ entry ∈ Reading.configuration.reached, Documented entry.1 entry.2 := by
  decide +kernel

/-- What is further inside is inside. -/
theorem Inside.onward {paths : List (List String)} {start names : List String}
    (within : start <+: names) (inside : Inside paths start) : Inside paths names := by
  obtain ⟨path, listed, leads⟩ := inside
  exact ⟨path, listed, leads.trans within⟩

/-- What is reached along names keeps to the paths there. -/
theorem Documented.along {names : List String} {last part : Reading}
    (member : last ∈ Reading.configuration.along names) (listed : ([], part) ∈ last.reached) :
    Documented names part := by
  refine Reading.holds_along documented_of_mem_reached ?_ member listed
  rintro content start names (rfl | rfl) within documented
  · exact Inside.onward within documented
  · exact Inside.onward within documented

/-! ### Deleting a node -/

/-- What remains of the siblings of a node that is deleted: two texts on its
sides may become one. -/
inductive Closes : List Node → List Node → List Node → Prop
  | apart (before after : List Node) : Closes before after (before ++ after)
  | joined (front back : List Node) (first second : String) :
      Closes (front ++ [.text first]) (.text second :: back)
        (front ++ .text (first ++ second) :: back)

namespace Closes

variable {before after remaining : List Node}

/-- What remains has the text of both sides. -/
theorem innerTexts_eq (closes : Closes before after remaining) :
    Node.innerTexts remaining = Node.innerTexts before ++ Node.innerTexts after := by
  cases closes with
  | apart => exact Node.innerTexts_append ..
  | joined front back first second =>
      simp only [Node.innerTexts_append, Node.innerTexts, Node.innerText, String.append_assoc,
        String.append_empty]

theorem found_eq (closes : Closes before after remaining) (way : Way) (scope : Scope) :
    way.found scope remaining = way.found scope before ++ way.found scope after := by
  cases closes with
  | apart => exact way.found_append ..
  | joined front back first second =>
      have text (content : String) : way.pick ⟨scope, .text content⟩ = [] :=
        way.pick_eq_nil_of_isElement_eq_false rfl
      have none : way.found scope [] = [] := rfl
      simp only [Way.found_append, Way.found_cons, text, none, List.append_nil, List.nil_append]

/-- The configurations that remain are those of both sides. -/
theorem configurationPlacesInside_eq (closes : Closes before after remaining) (enclosed : Bool)
    (outer : Scope) :
    configurationPlacesInside enclosed outer remaining =
      configurationPlacesInside enclosed outer before ++
        configurationPlacesInside enclosed outer after := by
  cases closes with
  | apart => exact configurationPlacesInside_append ..
  | joined front back first second =>
      simp only [configurationPlacesInside_append, configurationPlacesInside, configurationPlaces,
        List.append_nil, List.nil_append]

end Closes

namespace Way

variable {way : Way} {node : Node} {before : List Node}

/-- A node is overlooked that contributes nothing, or that comes after the only
element that counts. -/
theorem counted_without (scope : Scope) (after : List Node)
    (overlooked : way.pick ⟨scope, node⟩ = [] ∨ way.onlyFirst ∧ way.found scope before ≠ []) :
    way.counted (way.found scope before ++ way.found scope after) =
      way.counted (way.found scope (before ++ node :: after)) := by
  rw [found_append, found_cons]
  rcases overlooked with none | ⟨onlyFirst, some⟩
  · rw [none, List.nil_append]
  · have one : 1 ≤ (way.found scope before).length := List.length_pos_iff.mpr some
    rw [counted, counted, if_pos onlyFirst, if_pos onlyFirst,
      List.take_append_of_le_length one, List.take_append_of_le_length one]

end Way

section Deleting

variable {names : List String} {before after remaining : List Node} {node : Node}

/-- An unread node contributes nothing, or stands behind one that counts instead. -/
theorem overlooked_of_unread {way : Way} {item rest : Reading}
    (unread : Unread names before node) (documented : Documented names (.part way item rest))
    (scope : Scope) :
    way.pick ⟨scope, node⟩ = [] ∨ way.onlyFirst ∧ way.found scope before ≠ [] := by
  obtain ⟨single, grouped⟩ := documented
  cases node with
  | element name declared attributes content =>
      obtain ⟨-, -, off | ⟨once, sibling, earlier, named⟩⟩ := unread
      · refine .inl (Way.pick_eq_nil ?_ ?_)
        · rintro ⟨direct, same⟩
          exact off (same ▸ (single direct).1)
        · intro same
          exact off (grouped _ (by simp [same])).1
      · have container : way.container ≠ some name.localName := fun same =>
          (grouped _ (by simp [same])).2 once
        by_cases looked : way.direct ∧ name.localName = way.item
        · obtain ⟨direct, same⟩ := looked
          rw [same] at once named
          have first : Place.mk scope sibling ∈ way.found scope before :=
            List.mem_flatMap.mpr ⟨sibling, earlier, Way.mem_pick direct named⟩
          exact .inr ⟨(single direct).2 once, List.ne_nil_of_mem first⟩
        · exact .inl (Way.pick_eq_nil looked container)
  | text _ => exact .inl (way.pick_eq_nil_of_isElement_eq_false rfl)
  | comment _ => exact .inl (way.pick_eq_nil_of_isElement_eq_false rfl)
  | instruction _ _ => exact .inl (way.pick_eq_nil_of_isElement_eq_false rfl)

/-- Taking an unread node out of a text leaves the text. -/
theorem innerTexts_eq_of_unread (unread : Unread names before node)
    (inside : Inside textPaths names) (closes : Closes before after remaining) :
    Node.innerTexts remaining = Node.innerTexts (before ++ node :: after) := by
  rw [closes.innerTexts_eq, Node.innerTexts_append, Node.innerTexts]
  cases node with
  | element _ _ _ _ => exact absurd inside unread.1
  | text _ => exact absurd inside unread.1
  | comment _ => rw [Node.innerText, String.empty_append]
  | instruction _ _ => rw [Node.innerText, String.empty_append]

/-- Nothing inside a template is unread. -/
theorem not_inside_template_of_unread (unread : Unread names before node) :
    ¬ Inside templatePaths names := by
  cases node with
  | element _ _ _ _ => exact unread.2.1
  | text _ => exact unread.2
  | comment _ => exact unread
  | instruction _ _ => exact unread

/-- An element reads the same without a node in it that is not read. -/
theorem agree_of_unread {reading : Reading}
    (documented : ∀ part, ([], part) ∈ reading.reached → Documented names part)
    (unread : Unread names before node) (closes : Closes before after remaining) :
    reading.Agree remaining (before ++ node :: after) := by
  intro outer frame
  induction reading with
  | nothing => exact True.intro
  | attributes => rfl
  | text =>
      exact innerTexts_eq_of_unread unread (documented _ (Reading.self_mem_reached _)) closes
  | markup =>
      exact absurd (documented _ (Reading.self_mem_reached _))
        (not_inside_template_of_unread unread)
  | part way item rest _ sameRest =>
      refine ⟨?_, sameRest fun part listed => documented part (Reading.mem_reached_part listed)⟩
      have overlooked := overlooked_of_unread unread
        (documented _ (Reading.self_mem_reached _)) (frame.scope outer)
      have same : way.select (frame.place outer remaining) =
          way.select (frame.place outer (before ++ node :: after)) := by
        refine Eq.trans (congrArg way.counted (closes.found_eq way (frame.scope outer))) ?_
        exact way.counted_without (frame.scope outer) after overlooked
      rw [same]
      exact List.forall₂_refl _

/-- **Only the documented paths are read.** A node that neither is nor contains
an element `configuration` can be deleted from a document without a change of
its configurations, when the names from each configuration around the node lead
to a place where it is not read. A comment or instruction needs no more than to
stand outside all templates. -/
theorem readConfigurations_eq_of_unread {path : List Frame}
    (plain : ∀ place ∈ Node.places [] node, place.isNamed "configuration" = false)
    (unread : ∀ names ∈ namesBelow false path, Unread names before node)
    (closes : Closes before after remaining) :
    readConfigurations ⟨aroundPath path remaining⟩ =
      readConfigurations ⟨aroundPath path (before ++ node :: after)⟩ := by
  refine readConfigurations_aroundPath ?_ fun names below last member => ?_
  · rw [closes.configurationPlacesInside_eq, configurationPlacesInside_append,
      configurationPlacesInside, configurationPlaces_eq_nil _ _ node plain, List.nil_append]
  · exact agree_of_unread (fun part listed => Documented.along member listed)
      (unread names below) closes

/-- Of two connections the second is not read. -/
theorem readConfigurations_eq_secondConnection :
    let path := ["configurations", "configuration", "mappings", "mappingIn"].map fun name =>
      Frame.mk [] ⟨none, name⟩ [] [] []
    let connection (username : String) :=
      Node.element ⟨none, "connection"⟩ [] [⟨⟨none, "username"⟩, username⟩] []
    Unread ["mappings", "mappingIn"] [connection "jane"] (connection "john") ∧
      readConfigurations ⟨aroundPath path [connection "jane", .text "\n"]⟩ =
        readConfigurations
          ⟨aroundPath path [connection "jane", connection "john", .text "\n"]⟩ := by
  intro path connection
  have plain : ∀ place ∈ Node.places [] (connection "john"),
      place.isNamed "configuration" = false := by decide +kernel
  have unread : ∀ names ∈ namesBelow false path,
      Unread names [connection "jane"] (connection "john") := by decide +kernel
  have closes : Closes [connection "jane"] [.text "\n"] [connection "jane", .text "\n"] :=
    .apart [connection "jane"] [.text "\n"]
  have same := readConfigurations_eq_of_unread plain unread closes
  exact ⟨unread _ (by decide +kernel), same⟩

/-- Fields in a template field are not read. -/
example : Unread ["mappings", "mappingIn", "templateFields", "templateField"] []
    (.element ⟨none, "fields"⟩ [] [] [.element ⟨none, "field"⟩ [] [] []]) := by decide +kernel

end Deleting

end IssueSync
