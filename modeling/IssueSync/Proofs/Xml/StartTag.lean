import IssueSync.Proofs.Xml.AcceptedTree

/-! # Reading a start tag that was written

Written with the labels of its scope and read in a scope where labels mean the
same, the name of an element is the same again unless its label is `xmlns`
(`elementName?_writtenName`), and the name of an attribute is unless its namespace
is bound first without a label (`attributeName?_writtenName`). A tag that keeps
its names opens the same element again, up to the white space in its values
(`Scope.Reopened.openElement?_eq`), and no other tag opens one with the same names
(`Scope.Reopened.keepsTag`).
-/

namespace IssueSync.Xml

/-! ### Written names -/

namespace Scope

/-- The label that is written for the namespace of a name. -/
def writtenLabel (scope : Scope) (name : ExpandedName) : List Char :=
  match name.namespaceUri with
  | none => []
  | some uri =>
      if uri = xmlUri then "xml".toList
      else
        match scope.labelOf? uri with
        | some label => label.toList
        | none => []

/-- A name as it is written in scope. -/
def writtenName (scope : Scope) (name : ExpandedName) : WrittenName :=
  ⟨scope.writtenLabel name, name.localName.toList⟩

/-- The written form of an element name is read as that name: the first binding
to its namespace is not labelled `xmlns`, and the namespace is read as it was. -/
def KeepsElement (scope : Scope) (name : ExpandedName) : Prop :=
  ∀ uri, name.namespaceUri = some uri → scope.labelOf? uri ≠ some "xmlns" ∧ SpacesOnly uri

/-- The written form of an attribute name is read as that name: besides, the
first binding to its namespace has a label. -/
def KeepsAttribute (scope : Scope) (name : ExpandedName) : Prop :=
  ∀ uri, name.namespaceUri = some uri → uri = xmlUri ∨
    ∃ label, scope.labelOf? uri = some label ∧ label ≠ "xmlns" ∧ SpacesOnly uri

variable {scope read : Scope} {name : ExpandedName} {uri label : String}

/-- A label that is found for a namespace was declared for it. -/
theorem mem_of_labelOf? (found : scope.labelOf? uri = some label) : ⟨some label, uri⟩ ∈ scope := by
  obtain ⟨binding, first, labelled⟩ := Option.bind_eq_some_iff.mp found
  have same : binding.uri = uri := by
    simpa using List.find?_some first
  rw [← labelled, ← same]
  exact List.mem_of_find?_eq_some first

/-- No label that is found is empty or the one that is always bound. -/
theorem Sound.ne_of_labelOf? (sound : scope.Sound) (found : scope.labelOf? uri = some label) :
    label.toList ≠ [] ∧ label ≠ "xml" := by
  have binding := sound _ (mem_of_labelOf? found)
  constructor
  · intro blank
    have starts := (binding.named label rfl).1
    rw [blank] at starts
    cases starts
  · rintro rfl
    exact binding.label rfl

/-- Reading the written form of an element name. -/
theorem elementName?_writtenName (sound : scope.Sound) (distinct : scope.Distinct)
    (same : scope.ReadAs read)
    (bound : ∀ uri, name.namespaceUri = some uri → ∃ label, scope.uriOf? label = some uri)
    (free : name.namespaceUri = none → scope.uriOf? none = none) :
    elementName? read (scope.writtenName name) = some name ↔ scope.KeepsElement name := by
  obtain ⟨namespaceUri, localName⟩ := name
  cases namespaceUri with
  | none =>
      have unbound : read.uriOf? none = none := by
        rw [same, free rfl, Option.map_none]
      simp [elementName?, writtenName, writtenLabel, unbound, KeepsElement]
  | some uri =>
      obtain ⟨label, boundAs⟩ := bound uri rfl
      have ordinary : uri ≠ xmlUri := (sound _ (mem_of_uriOf? boundAs)).ordinary
      have back := distinct.uriOf?_labelOf? boundAs
      have again : read.uriOf? (scope.labelOf? uri) = some (valueAgain uri) := by
        rw [same, back, Option.map_some]
      cases found : scope.labelOf? uri with
      | none =>
          rw [found] at again
          simp [elementName?, writtenName, writtenLabel, ordinary, found, again, KeepsElement,
            valueAgain_eq_iff]
      | some first =>
          have filled := (sound.ne_of_labelOf? found).1
          rw [found] at again
          by_cases reserved : first = "xmlns"
          · subst reserved
            simp [elementName?, writtenName, writtenLabel, ordinary, found, KeepsElement]
          · have different : first.toList ≠ ['x', 'm', 'l', 'n', 's'] := fun equal =>
              reserved (String.toList_inj.mp equal)
            simp [elementName?, writtenName, writtenLabel, ordinary, found, KeepsElement, filled,
              different, again, reserved, valueAgain_eq_iff]

end Scope

/-- An attribute as it is written in a start tag. -/
def Attribute.written (scope : Scope) (item : Attribute) : WrittenAttribute :=
  ⟨scope.writtenName item.name, item.value⟩

/-- A declaration as it is written in a start tag. -/
def Binding.written (binding : Binding) : WrittenAttribute :=
  match binding.label with
  | some label => ⟨⟨"xmlns".toList, label.toList⟩, binding.uri⟩
  | none => ⟨⟨[], "xmlns".toList⟩, binding.uri⟩

/-- The declarations and attributes of an element, as they are written. -/
def startItems (outer scope : Scope) (attributes : List Attribute) : List WrittenAttribute :=
  (outer.introduced scope).map Binding.written ++ attributes.map (Attribute.written scope)

/-- An item of a start tag as it is read again. -/
def WrittenAttribute.again (item : WrittenAttribute) : WrittenAttribute :=
  { item with value := valueAgain item.value }

/-- Reading the written form of an attribute name. -/
theorem attributeName?_writtenName {scope read : Scope} {item : Attribute} (sound : scope.Sound)
    (distinct : scope.Distinct) (same : scope.ReadAs read) (itemSound : item.Sound scope) :
    (item.written scope).isDeclaration = false ∧
        attributeName? read (scope.writtenName item.name) = some item.name ↔
      scope.KeepsAttribute item.name := by
  obtain ⟨-, ordinaryName, bound, -⟩ := itemSound
  obtain ⟨⟨namespaceUri, localName⟩, value⟩ := item
  have notDeclared : localName.toList ≠ ['x', 'm', 'l', 'n', 's'] := fun equal =>
    ordinaryName (String.toList_inj.mp equal)
  cases namespaceUri with
  | none =>
      simp [WrittenAttribute.isDeclaration, Attribute.written, attributeName?, Scope.writtenName,
        Scope.writtenLabel, notDeclared, Scope.KeepsAttribute]
  | some uri =>
      by_cases reserved : uri = xmlUri
      · simp [WrittenAttribute.isDeclaration, Attribute.written, attributeName?,
          Scope.writtenName, Scope.writtenLabel, notDeclared, Scope.KeepsAttribute, reserved]
      · obtain ⟨label, boundAs⟩ := (bound uri rfl).resolve_left reserved
        have back := distinct.uriOf?_labelOf? boundAs
        have again : read.uriOf? (scope.labelOf? uri) = some (valueAgain uri) := by
          rw [same, back, Option.map_some]
        cases found : scope.labelOf? uri with
        | none =>
            simp [WrittenAttribute.isDeclaration, Attribute.written, attributeName?,
              Scope.writtenName, Scope.writtenLabel, notDeclared, Scope.KeepsAttribute, reserved,
              found]
        | some first =>
            obtain ⟨filled, notXml⟩ := sound.ne_of_labelOf? found
            have different : first.toList ≠ ['x', 'm', 'l'] := fun equal =>
              notXml (String.toList_inj.mp equal)
            rw [found] at again
            by_cases declares : first = "xmlns"
            · subst declares
              simp [WrittenAttribute.isDeclaration, Attribute.written, Scope.writtenName,
                Scope.writtenLabel, Scope.KeepsAttribute, reserved, found]
            · have other : first.toList ≠ ['x', 'm', 'l', 'n', 's'] := fun equal =>
                declares (String.toList_inj.mp equal)
              simp [WrittenAttribute.isDeclaration, Attribute.written, attributeName?,
                Scope.writtenName, Scope.writtenLabel, notDeclared, Scope.KeepsAttribute, reserved,
                found, filled, different, other, declares, again, valueAgain_eq_iff]

/-! ### Written tags -/

/-- A declaration is read back with its namespace as values are. -/
theorem Binding.again_written (binding : Binding) :
    binding.written.again = binding.again.written := by
  obtain ⟨label, uri⟩ := binding
  cases label with
  | none => rfl
  | some label => rfl

/-- A declaration is written as one. -/
theorem Binding.isDeclaration_written (binding : Binding) :
    binding.written.isDeclaration = true := by
  obtain ⟨label, uri⟩ := binding
  cases label with
  | none => rfl
  | some label => rfl

/-- A declaration that is read back can be declared. -/
theorem Binding.Declarable.again {binding : Binding} (declarable : binding.Declarable) :
    binding.again.Declarable where
  label := declarable.label
  ordinary same := declarable.ordinary (eq_of_valueAgain_eq same (by decide))
  allowed same := declarable.allowed (eq_of_valueAgain_eq same (by decide))

/-- Distinct declarations are distinct when they are read back. -/
theorem Scope.Distinct.again {scope : Scope} (distinct : scope.Distinct) :
    scope.again.Distinct := by
  rw [Scope.Distinct, Scope.again, List.map_map]
  exact distinct

/-- A fold whose steps lead through known states leads to the last of them. -/
theorem foldlM_eq_some {State Item : Type} {step : State → Item → Option State}
    (states : List Item → State) (items : List Item)
    (each : ∀ before item after, items = before ++ item :: after →
      step (states before) item = some (states (before ++ [item]))) :
    items.foldlM step (states []) = some (states items) := by
  have run : ∀ after before, items = before ++ after →
      after.foldlM step (states before) = some (states items) := by
    intro after
    induction after with
    | nil =>
        intro before whole
        rw [whole, List.append_nil]
        rfl
    | cons item rest ih =>
        intro before whole
        rw [List.foldlM_cons, each before item rest whole]
        exact ih (before ++ [item]) (by rw [whole, List.append_cons])
  exact run items [] rfl

/-- Declarations that are written are read as they are. -/
theorem declarations?_written {scope : Scope} {items : List WrittenAttribute}
    (declarable : ∀ binding ∈ scope, binding.Declarable) (distinct : scope.Distinct)
    (others : ∀ item ∈ items, item.isDeclaration = false) :
    declarations? (scope.map Binding.written ++ items) = some scope := by
  rw [declarations?, List.foldlM_append, List.foldlM_map]
  refine Option.bind_eq_some_iff.mpr ⟨scope, foldlM_eq_some id scope ?_,
    foldlM_eq_some (fun _ => scope) items ?_⟩
  · intro before binding after whole
    have member : binding ∈ scope := whole ▸ List.mem_append_right _ List.mem_cons_self
    obtain ⟨notXml, ordinary, allowed⟩ := declarable binding member
    have unbound : Scope.binds before binding.label = false := by
      rw [whole, Scope.Distinct, List.map_append, List.nodup_append] at distinct
      rw [Scope.binds, List.any_eq_false]
      intro earlier listed same
      exact distinct.2.2 _ (List.mem_map_of_mem listed) _ List.mem_cons_self
        (of_decide_eq_true same)
    obtain ⟨label, uri⟩ := binding
    cases label with
    | none => simp [Binding.written, ordinary, allowed]
    | some label =>
        have other : label ≠ "xml" := fun same => notXml (congrArg some same)
        simp [Binding.written, ordinary, allowed, other, unbound]
  · intro before item after whole
    have other := others item (whole ▸ List.mem_append_right _ List.mem_cons_self)
    simp only [WrittenAttribute.isDeclaration, Bool.or_eq_false_iff,
      decide_eq_false_iff_not] at other
    rw [if_neg other.1, if_neg other.2]

/-- An attribute as it is read again. -/
def Attribute.again (item : Attribute) : Attribute :=
  { item with value := valueAgain item.value }

/-- A tag whose names are all read as they are. -/
structure Scope.KeepsTag (scope : Scope) (name : ExpandedName) (attributes : List Attribute) :
    Prop where
  element : scope.KeepsElement name
  attributes : ∀ item ∈ attributes, scope.KeepsAttribute item.name

/-- Declarations of an accepted element inside a scope, with the scope in which
the element is read again. -/
structure Scope.Reopened (outer own read : Scope) : Prop where
  outerSound : outer.Sound
  ownSound : own.Sound
  outerDistinct : outer.Distinct
  ownDistinct : own.Distinct
  same : outer.ReadAs read

/-- The declarations that are read again for an element. -/
def Scope.redeclared (outer own : Scope) : Scope :=
  (outer.introduced (outer.extend own)).again

namespace Scope.Reopened

variable {outer own read : Scope} {name : ExpandedName} {attributes : List Attribute}

theorem sound (reopened : outer.Reopened own read) : (outer.extend own).Sound :=
  reopened.outerSound.extend reopened.ownSound

theorem distinct (reopened : outer.Reopened own read) : (outer.extend own).Distinct :=
  reopened.outerDistinct.extend reopened.ownDistinct

/-- The declarations in force are read as those in force when the tag is read back. -/
theorem readAs (reopened : outer.Reopened own read) :
    (outer.extend own).ReadAs (read.extend (outer.redeclared own)) :=
  reopened.same.extend reopened.outerDistinct reopened.ownDistinct fun binding member =>
    (reopened.sound binding member).ordinary

/-- What a start tag is read back as: its declarations before its attributes. -/
theorem map_again_startItems (outer scope : Scope) (attributes : List Attribute) :
    (startItems outer scope attributes).map WrittenAttribute.again =
      (outer.introduced scope).again.map Binding.written ++
        (attributes.map Attribute.again).map (Attribute.written scope) := by
  have declarations : (outer.introduced scope).map (WrittenAttribute.again ∘ Binding.written) =
      (outer.introduced scope).map (Binding.written ∘ Binding.again) :=
    List.map_congr_left fun binding _ => binding.again_written
  rw [startItems, List.map_append, List.map_map, declarations, List.map_map, again, List.map_map,
    List.map_map]
  rfl

/-- The declarations of a start tag are read back, unless an attribute looks like one. -/
theorem declarations?_startItems (reopened : outer.Reopened own read)
    (others : ∀ item ∈ attributes,
      (item.written (outer.extend own)).isDeclaration = false) :
    declarations? ((startItems outer (outer.extend own) attributes).map WrittenAttribute.again) =
      some (outer.redeclared own) := by
  rw [map_again_startItems]
  refine declarations?_written ?_ ((reopened.distinct.introduced outer).again) ?_
  · intro binding member
    obtain ⟨original, listed, rfl⟩ := List.mem_map.mp member
    exact (reopened.sound original (mem_introduced.mp listed).1).toDeclarable.again
  · intro item member
    rw [List.map_map] at member
    obtain ⟨original, listed, rfl⟩ := List.mem_map.mp member
    exact others original listed

/-- The attributes among the items of a tag are those that are not read as
declarations. -/
theorem filter_startItems (outer scope : Scope) (attributes : List Attribute) :
    ((startItems outer scope attributes).map WrittenAttribute.again).filter (!·.isDeclaration) =
      ((attributes.map Attribute.again).map (Attribute.written scope)).filter
        (!·.isDeclaration) := by
  have none : ((outer.introduced scope).again.map Binding.written).filter (!·.isDeclaration) =
      [] := by
    rw [List.filter_eq_nil_iff]
    intro item member
    obtain ⟨binding, -, rfl⟩ := List.mem_map.mp member
    rw [binding.isDeclaration_written]
    exact Bool.false_ne_true
  rw [map_again_startItems, List.filter_append, none, List.nil_append]

/-- A tag that keeps its names opens the same element again. -/
theorem openElement?_eq (reopened : outer.Reopened own read)
    (hosts : (outer.extend own).Hosts name attributes)
    (keeps : (outer.extend own).KeepsTag name attributes) :
    openElement? read ((outer.extend own).writtenName name)
        ((startItems outer (outer.extend own) attributes).map WrittenAttribute.again) =
      some ⟨(outer.extend own).writtenName name, name, outer.redeclared own,
        attributes.map Attribute.again, read.extend (outer.redeclared own), []⟩ := by
  have kept : ∀ item ∈ attributes,
      (item.written (outer.extend own)).isDeclaration = false ∧
        attributeName? (read.extend (outer.redeclared own))
          ((outer.extend own).writtenName item.name) = some item.name := fun item member =>
    (attributeName?_writtenName reopened.sound reopened.distinct reopened.readAs
      (hosts.sound item member)).mpr (keeps.attributes item member)
  have declared := reopened.declarations?_startItems fun item member => (kept item member).1
  have named := (elementName?_writtenName reopened.sound reopened.distinct reopened.readAs
    hosts.bound hosts.free).mpr keeps.element
  have attributesRead : attributes? (read.extend (outer.redeclared own))
      ((startItems outer (outer.extend own) attributes).map WrittenAttribute.again) =
        some (attributes.map Attribute.again) := by
    have all : ((attributes.map Attribute.again).map
        (Attribute.written (outer.extend own))).filter (!·.isDeclaration) =
          (attributes.map Attribute.again).map (Attribute.written (outer.extend own)) := by
      rw [List.filter_eq_self]
      intro item member
      rw [List.map_map] at member
      obtain ⟨original, listed, rfl⟩ := List.mem_map.mp member
      exact Bool.not_eq_true' _ |>.mpr (kept original listed).1
    refine attributes?_eq_some_iff.mpr ⟨?_, ?_⟩
    · rw [filter_startItems, all, List.map_map, List.map_map, List.map_map]
      refine List.map_congr_left fun item member => ?_
      exact congrArg (·, valueAgain item.value) (kept item member).2
    · rw [List.map_map]
      exact hosts.distinct
  exact openElement?_eq_some_iff.mpr ⟨_, _, _, declared, named, attributesRead, rfl⟩

/-- A tag that opens an element with the same names keeps its names. -/
theorem keepsTag (reopened : outer.Reopened own read)
    (hosts : (outer.extend own).Hosts name attributes) {element : OpenElement}
    (opened : openElement? read ((outer.extend own).writtenName name)
      ((startItems outer (outer.extend own) attributes).map WrittenAttribute.again) = some element)
    (nameSame : element.name = name)
    (attributesSame : element.attributes.map Attribute.name = attributes.map Attribute.name) :
    (outer.extend own).KeepsTag name attributes := by
  obtain ⟨declared, found, foundAttributes, declarations, nameFound, attributesFound, rfl⟩ :=
    openElement?_eq_some_iff.mp opened
  dsimp only at nameSame attributesSame
  subst nameSame
  have pairs := (attributes?_eq_some_iff.mp attributesFound).1
  rw [filter_startItems] at pairs
  -- No attribute is lost, so none of them is read as a declaration.
  have all : ∀ item ∈ (attributes.map Attribute.again).map (Attribute.written (outer.extend own)),
      (!item.isDeclaration) = true := by
    rw [← List.length_filter_eq_length_iff]
    have lengths := congrArg List.length pairs
    have counts := congrArg List.length attributesSame
    simp only [List.length_map] at lengths counts
    rw [lengths, counts, List.length_map, List.length_map]
  have others : ∀ item ∈ attributes,
      (item.written (outer.extend own)).isDeclaration = false := by
    intro item member
    have kept := all _ (List.mem_map_of_mem (List.mem_map_of_mem member))
    exact Bool.not_eq_true' _ |>.mp kept
  rw [reopened.declarations?_startItems others] at declarations
  cases declarations
  refine ⟨(elementName?_writtenName reopened.sound reopened.distinct reopened.readAs hosts.bound
    hosts.free).mp nameFound, fun item member => ?_⟩
  refine (attributeName?_writtenName reopened.sound reopened.distinct reopened.readAs
    (hosts.sound item member)).mp ⟨others item member, ?_⟩
  have names : attributes.map (fun item =>
      attributeName? (read.extend (outer.redeclared own))
        ((outer.extend own).writtenName item.name)) =
      attributes.map fun item => some item.name := by
    rw [List.filter_eq_self.mpr all] at pairs
    have firsts := congrArg (List.map Prod.fst) pairs
    have found := congrArg (List.map some) attributesSame
    simp only [List.map_map] at firsts found
    exact firsts.trans found
  exact List.map_eq_map_iff.mp names item member

end Scope.Reopened

end IssueSync.Xml
