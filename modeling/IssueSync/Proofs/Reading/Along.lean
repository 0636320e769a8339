import IssueSync.Proofs.Reading.Parts

/-! # What a change at the end of a path can reach

From the names of the elements on a path follows what is read from the last of
them (`Reading.along`). Two contents at its end that agree on that give the same
configurations (`readConfigurations_aroundPath`). As the table of what is read
is finite, so is the list of all readings that a path can lead to
(`Reading.reached`), and what holds in the whole list holds along every path
(`Reading.holds_along`).
-/

namespace IssueSync

open Xml (Attribute ExpandedName Frame Node Place Scope)

/-- The local names of the elements of a path. -/
def localNames (path : List Frame) : List String :=
  path.map (·.name.localName)

/-- The names from each configuration on a path to the end of the path. -/
def namesBelow (enclosed : Bool) : List Frame → List (List String)
  | [] => []
  | frame :: inner =>
      (if enclosed && frame.name.localName == "configuration" then [localNames inner] else []) ++
        namesBelow (enclosedIn enclosed frame) inner

/-- What a reading needs of a child of a name, when it looks up items. -/
def Way.enter (way : Way) (item : Reading) (name : String) : List Reading :=
  (if way.direct && name = way.item then [item] else []) ++
    if way.container = some name then [.part (.each way.item) item .nothing] else []

namespace Reading

/-- What a reading needs of a child of a name. -/
def enter (name : String) : Reading → List Reading
  | nothing => []
  | attributes => []
  | text => [text]
  | markup => [markup]
  | part way item rest => way.enter item name ++ rest.enter name

/-- What a reading needs of an element, by the names of the path to it. -/
def along (reading : Reading) : List String → List Reading
  | [] => [reading]
  | name :: names => (reading.enter name).flatMap (·.along names)

/-- An element reads the same with two contents, wherever it stands. -/
def Agree (reading : Reading) (first second : List Node) : Prop :=
  ∀ (outer : Scope) (frame : Frame),
    reading.Same (frame.place outer first) (frame.place outer second)

end Reading

theorem Xml.Node.innerTexts_append (front back : List Node) :
    Node.innerTexts (front ++ back) = Node.innerTexts front ++ Node.innerTexts back := by
  induction front with
  | nil => exact (String.empty_append ..).symm
  | cons node rest ih =>
      rw [List.cons_append, Node.innerTexts, Node.innerTexts, ih, String.append_assoc]

namespace Way

variable {way : Way} {item : Reading} {frame : Frame} {first second : List Node}

/-- Whether an element is a container depends on its name. -/
theorem any_isNamed_place (container : Option String) (outer : Scope) (content : List Node) :
    container.any (frame.place outer content).isNamed =
      decide (container = some frame.name.localName) := by
  cases container with
  | none => rfl
  | some name =>
      rw [Option.any_some, Frame.isNamed_place]
      exact decide_eq_decide.mpr
        ⟨fun same => congrArg some same.symm, fun same => (Option.some.inj same).symm⟩

/-- An element contributes itself, and what is in it when it is a container. -/
theorem pick_place (way : Way) (frame : Frame) (outer : Scope) (content : List Node) :
    way.pick (frame.place outer content) =
      (if way.direct && frame.name.localName = way.item then [frame.place outer content] else []) ++
        if way.container = some frame.name.localName then
          (each way.item).select (frame.place outer content)
        else [] := by
  rw [pick, any_isNamed_place, Frame.isNamed_place, select_each]
  simp only [decide_eq_true_eq]

/-- An element that is not looked up itself contributes the elements in it, if
it is a container. -/
theorem pick_element {name : ExpandedName} {declared scope : Scope}
    {attributes : List Attribute} (itself : ¬ (way.direct ∧ name.localName = way.item))
    (content : List Node) :
    way.pick ⟨scope, .element name declared attributes content⟩ =
      if way.container = some name.localName then
        Xml.namedPlaces (scope.extend declared) way.item content
      else [] := by
  have picked := way.pick_place ⟨[], name, declared, attributes, []⟩ scope content
  rw [if_neg (by simpa using itself), List.nil_append, select_each, Frame.children_place] at picked
  exact picked

theorem pick_eq_nil {name : ExpandedName} {declared scope : Scope}
    {attributes : List Attribute} {content : List Node}
    (itself : ¬ (way.direct ∧ name.localName = way.item))
    (container : way.container ≠ some name.localName) :
    way.pick ⟨scope, .element name declared attributes content⟩ = [] := by
  rw [pick_element itself, if_neg container]

/-- An element that is looked up itself contributes itself. -/
theorem mem_pick {scope : Scope} {node : Node} (direct : way.direct)
    (named : node.isNamed way.item) : ⟨scope, node⟩ ∈ way.pick ⟨scope, node⟩ := by
  refine List.mem_append_left _ ?_
  rw [if_pos (by rw [direct]; exact named)]
  exact List.mem_singleton_self _

/-- Places that are related pairwise are so as far as they count. -/
theorem forall₂_counted {related : Place → Place → Prop} {firsts seconds : List Place}
    (all : List.Forall₂ related firsts seconds) :
    List.Forall₂ related (way.counted firsts) (way.counted seconds) := by
  unfold counted
  split
  · exact List.forall₂_take 1 all
  · exact all

/-- What an element contributes depends on what is read from it in turn. -/
theorem forall₂_pick
    (agree : ∀ entered ∈ way.enter item frame.name.localName, entered.Agree first second)
    (outer : Scope) :
    List.Forall₂ item.Same (way.pick (frame.place outer first))
      (way.pick (frame.place outer second)) := by
  unfold enter at agree
  rw [pick_place, pick_place]
  refine List.rel_append ?_ ?_
  · split
    · next single =>
        have entered := agree item (List.mem_append_left _ (by rw [if_pos single]; simp))
        exact .cons (entered outer frame) .nil
    · exact .nil
  · split
    · next grouped =>
        have entered := agree (.part (.each way.item) item .nothing)
          (List.mem_append_right _ (by rw [if_pos grouped]; simp))
        exact (entered outer frame).1
    · exact .nil

end Way

namespace Reading

variable {reading : Reading} {first second : List Node}

/-- A change of the content of an element shows only in what is read from that
element. -/
theorem agree_around {inner : Frame}
    (agree : ∀ entered ∈ reading.enter inner.name.localName, entered.Agree first second) :
    reading.Agree (inner.around first) (inner.around second) := by
  intro outer frame
  induction reading with
  | nothing => exact True.intro
  | attributes => rfl
  | text =>
      have same : Node.innerTexts first = Node.innerTexts second :=
        agree text List.mem_cons_self outer inner
      show Node.innerTexts (inner.around first) = Node.innerTexts (inner.around second)
      rw [Frame.around, Frame.around, Node.innerTexts_append, Node.innerTexts_append,
        Node.innerTexts, Node.innerTexts, Frame.element, Frame.element, Node.innerText,
        Node.innerText, same]
  | markup =>
      have same := (agree markup List.mem_cons_self (frame.scope outer) inner).1
      refine ⟨Node.markup_congr rfl rfl ?_ ?_, rfl⟩
      · rw [Frame.isEmpty_around, Frame.isEmpty_around]
      · rw [Frame.around, Frame.around, Node.markupAll_append, Node.markupAll_append,
          Node.markupAll, Node.markupAll]
        exact congrArg (fun markup => _ ++ (markup ++ _)) same
  | part way item rest _ agreeRest =>
      constructor
      -- The siblings are the same, so all depends on what the element contributes.
      · have itself := Way.forall₂_pick
          (fun entered listed => agree entered (List.mem_append_left _ listed))
          (frame.scope outer)
        refine Way.forall₂_counted ?_
        show List.Forall₂ item.Same (way.found (frame.scope outer) (inner.around first))
          (way.found (frame.scope outer) (inner.around second))
        rw [Frame.around, Frame.around, Way.found_append, Way.found_append, Way.found_cons,
          Way.found_cons]
        exact List.rel_append (List.forall₂_refl _)
          (List.rel_append itself (List.forall₂_refl _))
      · exact agreeRest fun entered listed => agree entered (List.mem_append_right _ listed)

/-- A change deep inside is one that the parts reached there do not see. -/
theorem agree_aroundPath {path : List Frame}
    (agree : ∀ last ∈ reading.along (localNames path), last.Agree first second) :
    reading.Agree (aroundPath path first) (aroundPath path second) := by
  induction path generalizing reading with
  | nil => exact agree reading List.mem_cons_self
  | cons frame inner ih =>
      refine agree_around fun entered enters => ih fun last listed => ?_
      exact agree last (List.mem_flatMap.mpr ⟨entered, enters, listed⟩)

end Reading

/-! ### The configurations around a change -/

/-- The configurations around a change read the same when none of the parts reached
there sees it. -/
theorem map_placesAround_eq {enclosed : Bool} {path : List Frame} {first second : List Node}
    (agree : ∀ names ∈ namesBelow enclosed path, ∀ last ∈ Reading.configuration.along names,
      last.Agree first second) (outer : Scope) :
    (placesAround enclosed outer path first).map readConfiguration =
      (placesAround enclosed outer path second).map readConfiguration := by
  induction path generalizing enclosed outer with
  | nil => rfl
  | cons frame inner ih =>
      have deeper := ih (fun names listed => agree names (List.mem_append_right _ listed))
        (frame.scope outer)
      rw [placesAround, placesAround, List.map_append, List.map_append, deeper]
      refine congrArg (· ++ _) ?_
      unfold ownPlace
      split
      · next own =>
          have below := agree (localNames inner) (List.mem_append_left _ (by rw [if_pos own]; simp))
          rw [List.map_singleton, List.map_singleton,
            readConfiguration_eq (Reading.agree_aroundPath below outer frame)]
      · rfl

/-- **Two contents at the end of a path give the same configurations** when the
same configurations stand in them and they agree on all that is read from the
end of the path. -/
theorem readConfigurations_aroundPath {path : List Frame} {first second : List Node}
    (inside : configurationPlacesInside (enclosedAlong false path) (pathScope [] path) first =
      configurationPlacesInside (enclosedAlong false path) (pathScope [] path) second)
    (agree : ∀ names ∈ namesBelow false path, ∀ last ∈ Reading.configuration.along names,
      last.Agree first second) :
    readConfigurations ⟨aroundPath path first⟩ = readConfigurations ⟨aroundPath path second⟩ := by
  have before := (map_placesBefore_eq_iff readConfiguration false [] path first second).mpr
    (map_placesAround_eq agree [])
  rw [readConfigurations, readConfigurations, configurationPlacesInside_aroundPath,
    configurationPlacesInside_aroundPath, inside, List.map_append, before,
    ← List.map_append]

/-! ### All that a path can lead to -/

namespace Reading

/-- Entries with a name before their paths. -/
def under (name : String) (entries : List (List String × Reading)) :
    List (List String × Reading) :=
  entries.map fun entry => (name :: entry.1, entry.2)

/-- What is read at the end of each path of names that are looked up. Below an
element whose text or markup is read, no names are looked up. -/
def reached : Reading → List (List String × Reading)
  | part way item rest =>
      let items := under way.item item.reached
      ([], part way item rest) ::
        ((if way.direct then items else []) ++
          way.container.toList.flatMap (under · <|
            ([], part (.each way.item) item nothing) :: (items ++ [([], nothing)])) ++
          rest.reached)
  | reading => [([], reading)]

variable {reading item rest last entered : Reading} {name : String} {names : List String}
  {way : Way} {entry : List String × Reading}

/-- The entries of a part are entries one name further on. -/
theorem mem_under (listed : entry ∈ reached reading) :
    (name :: entry.1, entry.2) ∈ under name reading.reached :=
  List.mem_map.mpr ⟨entry, listed, rfl⟩

/-- The parts reached through children of a name. -/
theorem reached_each (localName : String) (item : Reading) :
    (part (.each localName) item nothing).reached =
      ([], part (.each localName) item nothing) ::
        (under localName item.reached ++ [([], nothing)]) := by
  simp [reached, Way.each]

/-- A reading is reached by the empty path. -/
theorem self_mem_reached (reading : Reading) : ([], reading) ∈ reading.reached := by
  cases reading with
  | part _ _ _ => exact List.mem_cons_self
  | _ => exact List.mem_singleton_self _

/-- The remaining parts are reached as well. -/
theorem mem_reached_part (listed : entry ∈ rest.reached) :
    entry ∈ (part way item rest).reached :=
  List.mem_cons_of_mem _ (List.mem_append_right _ listed)

/-- What is reached inside an element that is entered is reached through its name. -/
theorem mem_reached_of_mem_enter_way (enters : entered ∈ way.enter item name)
    (listed : entry ∈ entered.reached) :
    (name :: entry.1, entry.2) ∈ (part way item rest).reached := by
  refine List.mem_cons_of_mem _ (List.mem_append_left _ ?_)
  rcases List.mem_append.mp enters with single | grouped
  · split at single
    · next both =>
        obtain ⟨direct, rfl⟩ : way.direct = true ∧ name = way.item := by simpa using both
        cases List.mem_singleton.mp single
        refine List.mem_append_left _ ?_
        rw [if_pos direct]
        exact mem_under listed
    · cases single
  · split at grouped
    · next container =>
        cases List.mem_singleton.mp grouped
        refine List.mem_append_right _ (List.mem_flatMap.mpr ⟨name, by simp [container], ?_⟩)
        rw [← reached_each]
        exact mem_under listed
    · cases grouped

/-- What is read from a child is reached by a path that begins with its name, or
is the text or the markup that is read already. -/
theorem exists_mem_reached_of_mem_enter (enters : entered ∈ reading.enter name)
    (listed : entry ∈ entered.reached) :
    ∃ start, (start, entry.2) ∈ reading.reached ∧ start <+: name :: entry.1 ∧
      (start = name :: entry.1 ∨ entry.2 = text ∨ entry.2 = markup) := by
  induction reading with
  | nothing => cases enters
  | attributes => cases enters
  | text =>
      cases List.mem_singleton.mp enters
      cases List.mem_singleton.mp listed
      exact ⟨[], self_mem_reached _, List.nil_prefix, .inr (.inl rfl)⟩
  | markup =>
      cases List.mem_singleton.mp enters
      cases List.mem_singleton.mp listed
      exact ⟨[], self_mem_reached _, List.nil_prefix, .inr (.inr rfl)⟩
  | part way item rest _ later =>
      rcases List.mem_append.mp enters with here | there
      · exact ⟨_, mem_reached_of_mem_enter_way here listed, List.prefix_rfl, .inl rfl⟩
      · obtain ⟨start, found, within, ends⟩ := later there
        exact ⟨start, mem_reached_part found, within, ends⟩

/-- What matters at the end of a path of names is reached by the path, or by the beginning
of it that leads to a text or markup. -/
theorem exists_mem_reached_of_mem_along {part : Reading} (member : last ∈ reading.along names)
    (listed : ([], part) ∈ last.reached) :
    ∃ start, (start, part) ∈ reading.reached ∧ start <+: names ∧
      (start = names ∨ part = text ∨ part = markup) := by
  induction names generalizing reading with
  | nil =>
      cases List.mem_singleton.mp member
      exact ⟨[], listed, List.nil_prefix, .inl rfl⟩
  | cons name names ih =>
      obtain ⟨entered, enters, deeper⟩ := List.mem_flatMap.mp member
      obtain ⟨start, found, within, ends⟩ := ih deeper
      obtain ⟨whole, foundWhole, withinWhole, endsWhole⟩ :=
        exists_mem_reached_of_mem_enter enters found
      have inside : name :: start <+: name :: names := by
        rw [List.cons_prefix_cons]
        exact ⟨rfl, within⟩
      refine ⟨whole, foundWhole, withinWhole.trans inside, ?_⟩
      rcases endsWhole with rfl | content
      · rcases ends with rfl | content
        · exact .inl rfl
        · exact .inr content
      · exact .inr content

/-- **What holds of all that a reading leads to holds along every path.** Of
text and of markup it must go on to hold in the elements inside. -/
theorem holds_along {P : List String → Reading → Prop} {part : Reading}
    (all : ∀ entry ∈ reading.reached, P entry.1 entry.2)
    (onward : ∀ {content start names}, content = text ∨ content = markup → start <+: names →
      P start content → P names content)
    (member : last ∈ reading.along names) (listed : ([], part) ∈ last.reached) :
    P names part := by
  obtain ⟨start, found, within, rfl | content⟩ := exists_mem_reached_of_mem_along member listed
  · exact all _ found
  · exact onward content within (all _ found)

end Reading

end IssueSync
