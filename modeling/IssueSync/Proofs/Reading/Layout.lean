import IssueSync.Proofs.Reading.Along

/-! # The layout of containers

How the elements that are read are divided into containers does not matter, nor
does the order of elements of different names, nor what is put around
configurations (`readConfigurations_eq_of_rearranged`). Nothing is swapped in an
element `xmlFields`, where fields that stand on their own and fields in a
container are read in one order.
-/

namespace IssueSync

open Xml (Attribute ExpandedName Frame Node Place Scope)

/-- The elements that are read for the elements in them alone. -/
def containerNames : List String :=
  ["projects", "issueTypes", "domains", "mappings", "headers", "rdfTypes", "maps",
    "templateFields", "fields"]

/-- The elements of which all the content is read. -/
def contentNames : List String :=
  ["template", "project", "domain", "issueType"]

/-- The content of an element with the local name `parent` in another layout. -/
inductive Rearranged (parent : String) : List Node → List Node → Prop
  /-- A container is split in two. -/
  | split (before after front back : List Node) (name : ExpandedName) (declared : Scope)
      (attributes : List Attribute) (container : name.localName ∈ containerNames) :
      Rearranged parent (before ++ .element name declared attributes (front ++ back) :: after)
        (before ++ .element name declared attributes front ::
          .element name declared attributes back :: after)
  /-- Two elements of different names, with no element between, are swapped. -/
  | swap (before between after : List Node) (first second : Node)
      (elements : first.isElement ∧ second.isElement)
      (different : first.localName? ≠ second.localName?)
      (adjacent : ∀ node ∈ between, node.isElement = false)
      (plain : ∀ place ∈ Node.placesInside [] [first, second],
        place.isNamed "configuration" = false)
      (ordered : parent ≠ "xmlFields") :
      Rearranged parent (before ++ first :: (between ++ second :: after))
        (before ++ second :: (between ++ first :: after))
  /-- Some of the content of an element `configurations` is put into an element. -/
  | wrap (before inside after : List Node) (name : ExpandedName)
      (other : name.localName ≠ "configuration") (around : parent = "configurations") :
      Rearranged parent (before ++ (inside ++ after))
        (before ++ .element name [] [] inside :: after)

/-! ### What the table of what is read allows -/

/-- What is read in an element at the end of a path may be laid out differently:
a container is looked up itself only for its presence, elements that stand on
their own and in containers are looked up in `xmlFields` only, and none below
`configurations`. -/
def AllowsLayout (names : List String) : Reading → Prop
  | .part way item _ =>
      (way.direct → way.item ∈ containerNames → way.onlyFirst ∧ item = .nothing) ∧
        (way.direct → way.container = none ∨ names.getLast? = some "xmlFields") ∧
        "configurations" ∉ names
  | .text => ∃ name ∈ contentNames, name ∈ names
  | .markup => ∃ name ∈ contentNames, name ∈ names
  | _ => True

instance (names : List String) : (reading : Reading) → Decidable (AllowsLayout names reading)
  | .part way item _ => inferInstanceAs (Decidable
      ((way.direct → way.item ∈ containerNames → way.onlyFirst ∧ item = .nothing) ∧
        (way.direct → way.container = none ∨ names.getLast? = some "xmlFields") ∧
        "configurations" ∉ names))
  | .text => inferInstanceAs (Decidable (∃ name ∈ contentNames, name ∈ names))
  | .markup => inferInstanceAs (Decidable (∃ name ∈ contentNames, name ∈ names))
  | .nothing => inferInstanceAs (Decidable True)
  | .attributes => inferInstanceAs (Decidable True)

/-- All parts of a configuration allow changes of layout. -/
theorem allowsLayout_of_mem_reached :
    ∀ entry ∈ Reading.configuration.reached, AllowsLayout entry.1 entry.2 := by
  decide +kernel

/-- What is reached along names allows changes of layout there. -/
theorem AllowsLayout.along {names : List String} {last part : Reading}
    (member : last ∈ Reading.configuration.along names) (listed : ([], part) ∈ last.reached) :
    AllowsLayout names part := by
  refine Reading.holds_along allowsLayout_of_mem_reached ?_ member listed
  rintro content start names (rfl | rfl) within ⟨name, listed, inside⟩
  · exact ⟨name, listed, within.subset inside⟩
  · exact ⟨name, listed, within.subset inside⟩

/-! ### The elements that are looked up -/

/-- An element has a name, declarations, attributes and content. -/
theorem Xml.Node.exists_of_isElement {node : Node} (element : node.isElement) :
    ∃ (name : ExpandedName) (declared : Scope) (attributes : List Attribute)
      (content : List Node), node = .element name declared attributes content := by
  cases node with
  | element name declared attributes content => exact ⟨name, declared, attributes, content, rfl⟩
  | text _ | comment _ | instruction _ _ => cases element

namespace Way

variable {way : Way} {item : Reading} {before between after front back : List Node}
  {first second : Node} {name : ExpandedName} {declared scope : Scope}
  {attributes : List Attribute}

/-- A container contributes what its halves contribute, when it is not looked up itself. -/
theorem pick_append (itself : ¬ (way.direct ∧ name.localName = way.item)) :
    way.pick ⟨scope, .element name declared attributes (front ++ back)⟩ =
      way.pick ⟨scope, .element name declared attributes front⟩ ++
        way.pick ⟨scope, .element name declared attributes back⟩ := by
  rw [pick_element itself, pick_element itself, pick_element itself]
  split
  · exact Xml.namedPlaces_append ..
  · rfl

/-- Elements of different names do not both contribute where elements on their
own and elements in containers are not looked up together. -/
theorem pick_eq_nil_or (apart : way.direct → way.container = none)
    (elements : first.isElement ∧ second.isElement)
    (different : first.localName? ≠ second.localName?) :
    way.pick ⟨scope, first⟩ = [] ∨ way.pick ⟨scope, second⟩ = [] := by
  obtain ⟨name, declared, attributes, front, rfl⟩ := Node.exists_of_isElement elements.1
  obtain ⟨otherName, otherDeclared, otherAttributes, back, rfl⟩ :=
    Node.exists_of_isElement elements.2
  replace different : name.localName ≠ otherName.localName := fun same =>
    different (congrArg some same)
  by_cases direct : way.direct = true
  · have alone (localName : String) : way.container ≠ some localName := by
      rw [apart direct]
      exact nofun
    by_cases named : name.localName = way.item
    · exact .inr (pick_eq_nil (fun both => different (named.trans both.2.symm)) (alone _))
    · exact .inl (pick_eq_nil (fun both => named both.2) (alone _))
  · by_cases grouped : way.container = some name.localName
    · refine .inr (pick_eq_nil (fun both => direct both.1) fun same => different ?_)
      exact Option.some.inj (grouped.symm.trans same)
    · exact .inl (pick_eq_nil (fun both => direct both.1) grouped)

theorem found_eq_nil (others : ∀ node ∈ between, node.isElement = false) (scope : Scope) :
    way.found scope between = [] :=
  List.flatMap_eq_nil_iff.mpr fun node listed =>
    way.pick_eq_nil_of_isElement_eq_false (others node listed)

/-- Where only the presence of an element counts it does not matter which it is. -/
theorem forall₂_counted_presence {firsts seconds : List Place} (onlyFirst : way.onlyFirst)
    (some : firsts ≠ []) (someOther : seconds ≠ []) :
    List.Forall₂ Reading.nothing.Same (way.counted firsts) (way.counted seconds) := by
  rw [counted, counted, if_pos onlyFirst, if_pos onlyFirst]
  obtain ⟨first, _, rfl⟩ := List.exists_cons_of_ne_nil some
  obtain ⟨second, _, rfl⟩ := List.exists_cons_of_ne_nil someOther
  exact .cons True.intro .nil

/-- An element in two halves counts like one: either it is only a container, or the first
half stands for it. -/
theorem forall₂_found_split
    (allowed : way.direct → name.localName = way.item → way.onlyFirst ∧ item = .nothing) :
    List.Forall₂ item.Same
      (way.counted (way.found scope
        (before ++ .element name declared attributes (front ++ back) :: after)))
      (way.counted (way.found scope
        (before ++ .element name declared attributes front ::
          .element name declared attributes back :: after))) := by
  rw [found_append, found_append, found_cons, found_cons, found_cons]
  by_cases itself : way.direct ∧ name.localName = way.item
  · obtain ⟨direct, named⟩ := itself
    obtain ⟨onlyFirst, rfl⟩ := allowed direct named
    have listed (content : List Node) :
        ⟨scope, .element name declared attributes content⟩ ∈
          way.pick ⟨scope, .element name declared attributes content⟩ :=
      mem_pick direct (decide_eq_true (congrArg some named))
    refine forall₂_counted_presence onlyFirst ?_ ?_
    · exact List.ne_nil_of_mem (List.mem_append_right _ (List.mem_append_left _ (listed _)))
    · exact List.ne_nil_of_mem (List.mem_append_right _ (List.mem_append_left _ (listed _)))
  · rw [pick_append itself, List.append_assoc]
    exact List.forall₂_refl _

/-- Two elements can change places when one of them contributes nothing. -/
theorem found_swap (none : way.pick ⟨scope, first⟩ = [] ∨ way.pick ⟨scope, second⟩ = [])
    (adjacent : ∀ node ∈ between, node.isElement = false) :
    way.found scope (before ++ first :: (between ++ second :: after)) =
      way.found scope (before ++ second :: (between ++ first :: after)) := by
  simp only [found_append, found_cons, found_eq_nil adjacent, List.nil_append]
  rcases none with none | none
  · rw [none, List.nil_append, List.nil_append]
  · rw [none, List.nil_append, List.nil_append]

end Way

/-! ### Another layout reads the same -/

theorem enclosedAlong_append_singleton (enclosed : Bool) (path : List Frame) (last : Frame) :
    enclosedAlong enclosed (path ++ [last]) = enclosedIn (enclosedAlong enclosed path) last := by
  induction path generalizing enclosed with
  | nil => rfl
  | cons frame inner ih => exact ih _

/-- The names below a configuration end the path. -/
theorem isSuffix_of_mem_namesBelow {enclosed : Bool} {path : List Frame} {names : List String}
    (below : names ∈ namesBelow enclosed path) :
    "configuration" :: names <:+ localNames path := by
  induction path generalizing enclosed with
  | nil => cases below
  | cons frame inner ih =>
      rcases List.mem_append.mp below with here | deeper
      · split at here
        · next own =>
            cases List.mem_singleton.mp here
            have named := beq_iff_eq.mp (Bool.and_eq_true_iff.mp own).2
            rw [← named]
            exact List.suffix_rfl
        · cases here
      · exact (ih deeper).trans (List.suffix_cons _ _)

section Layout

variable {parent : String} {names : List String} {old new : List Node}

/-- Parts that allow changes of layout do not see one. -/
theorem agree_of_rearranged {reading : Reading}
    (allows : ∀ part, ([], part) ∈ reading.reached → AllowsLayout names part)
    (outside : ∀ name ∈ contentNames, name ∉ names)
    (last : names.getLast?.getD "configuration" = parent)
    (rearranged : Rearranged parent old new) : reading.Agree old new := by
  intro outer frame
  induction reading with
  | nothing => exact True.intro
  | attributes => rfl
  | text =>
      obtain ⟨name, content, inside⟩ := allows _ (Reading.self_mem_reached _)
      exact absurd inside (outside name content)
  | markup =>
      obtain ⟨name, content, inside⟩ := allows _ (Reading.self_mem_reached _)
      exact absurd inside (outside name content)
  | part way item rest _ sameRest =>
      refine ⟨?_, sameRest fun part listed => allows part (Reading.mem_reached_part listed)⟩
      obtain ⟨presence, grouped, above⟩ := allows _ (Reading.self_mem_reached _)
      show List.Forall₂ item.Same (way.counted (way.found (frame.scope outer) old))
        (way.counted (way.found (frame.scope outer) new))
      cases rearranged with
      | split before after front back name declared attributes container =>
          exact Way.forall₂_found_split fun direct named => presence direct (named ▸ container)
      | swap before between after first second elements different adjacent plain ordered =>
          have apart : way.direct → way.container = none := by
            intro direct
            refine (grouped direct).resolve_right fun group => ordered ?_
            rw [← last, group, Option.getD_some]
          rw [Way.found_swap (Way.pick_eq_nil_or apart elements different) adjacent]
          exact List.forall₂_refl _
      | wrap before inside after name other around =>
          -- Nothing is looked up below an element `configurations`.
          refine absurd ?_ above
          rw [around] at last
          cases ends : names.getLast? with
          | none => simp [ends] at last
          | some final =>
              rw [ends, Option.getD_some] at last
              exact last ▸ List.mem_of_getLast? ends

/-- A change of layout leaves the places of configurations. -/
theorem configurationPlacesInside_of_rearranged {enclosed : Bool}
    (around : parent = "configurations" → enclosed = true)
    (rearranged : Rearranged parent old new) (outer : Scope) :
    configurationPlacesInside enclosed outer old =
      configurationPlacesInside enclosed outer new := by
  cases rearranged with
  | split before after front back name declared attributes container =>
      have other : name.localName ≠ "configuration" := by
        intro same
        rw [same] at container
        exact absurd container (by decide)
      simp only [configurationPlacesInside_append, configurationPlacesInside,
        configurationPlaces_of_ne other, List.append_assoc]
  | swap before between after first second elements different adjacent plain ordered =>
      have none := configurationPlaces_eq_nil enclosed outer first fun place found =>
        plain place (List.mem_append_left _ found)
      have noneOther := configurationPlaces_eq_nil enclosed outer second fun place found =>
        plain place (List.mem_append_right _ (List.mem_append_left _ found))
      simp only [configurationPlacesInside_append, configurationPlacesInside, none, noneOther]
  | wrap before inside after name other inner =>
      cases around inner
      simp only [configurationPlacesInside_append, configurationPlacesInside,
        configurationPlaces_of_ne other, Bool.true_or]
      rfl

/-- **The layout of containers does not matter.** Outside all elements of which
the whole content is read, containers can be split, elements of different names
swapped, and what is in an element `configurations` put into another element,
without a change of the configurations. -/
theorem readConfigurations_eq_of_rearranged {path : List Frame} {parent : Frame}
    (outside : ∀ frame ∈ path ++ [parent], frame.name.localName ∉ contentNames)
    (rearranged : Rearranged parent.name.localName old new) :
    readConfigurations ⟨aroundPath (path ++ [parent]) old⟩ =
      readConfigurations ⟨aroundPath (path ++ [parent]) new⟩ := by
  refine readConfigurations_aroundPath ?_ fun names below last member => ?_
  · refine configurationPlacesInside_of_rearranged ?_ rearranged _
    intro named
    rw [enclosedAlong_append_singleton, enclosedIn, named]
    exact Bool.or_true _
  · obtain ⟨above, whole⟩ := isSuffix_of_mem_namesBelow below
    refine agree_of_rearranged (fun part listed => AllowsLayout.along member listed) ?_ ?_
      rearranged
    · intro name content inside
      have onPath : name ∈ localNames (path ++ [parent]) :=
        whole ▸ List.mem_append_right _ (List.mem_cons_of_mem _ inside)
      obtain ⟨frame, listed, rfl⟩ := List.mem_map.mp onPath
      exact outside frame listed content
    · have ends := congrArg List.getLast? whole
      rw [List.getLast?_append_cons, List.getLast?_cons, localNames, List.map_append,
        List.map_singleton, List.getLast?_concat] at ends
      exact Option.some.inj ends

/-- A container in a group of fields is split between two fields. -/
theorem readConfigurations_eq_splitFields :
    let named (name : String) := Frame.mk [] ⟨none, name⟩ [] [] []
    let path := ["configurations", "configuration", "mappings", "mappingIn"].map named
    let fields (ids : List String) := Node.element ⟨none, "fields"⟩ [] []
      (ids.map fun id => .element ⟨none, "field"⟩ [] [⟨⟨none, "id"⟩, id⟩] [])
    Rearranged "xmlFields" [fields ["title", "state"]] [fields ["title"], fields ["state"]] ∧
      readConfigurations ⟨aroundPath (path ++ [named "xmlFields"]) [fields ["title", "state"]]⟩ =
        readConfigurations
          ⟨aroundPath (path ++ [named "xmlFields"]) [fields ["title"], fields ["state"]]⟩ := by
  intro named path fields
  let field (id : String) := Node.element ⟨none, "field"⟩ [] [⟨⟨none, "id"⟩, id⟩] []
  have outside : ∀ frame ∈ path ++ [named "xmlFields"],
      frame.name.localName ∉ contentNames := by decide +kernel
  have rearranged : Rearranged "xmlFields" [fields ["title", "state"]]
      [fields ["title"], fields ["state"]] :=
    .split [] [] [field "title"] [field "state"] ⟨none, "fields"⟩ [] [] (by decide)
  have same := readConfigurations_eq_of_rearranged outside rearranged
  exact ⟨rearranged, same⟩

end Layout

end IssueSync
