import IssueSync.Proofs.Xml.ScopeLookup
import IssueSync.Xml.Document
import Mathlib.Data.List.Chain

/-! # The trees of accepted documents

The names in a start tag that is accepted are bound in its scope, and no two of
its attributes have the same name (`openElement?_sound`). Each step of the
assembly keeps this for the elements that are open and for the nodes that are
complete, keeps texts apart from each other, and keeps them and a second element
from the top (`Assembly.step?_accepted`). So every document that is accepted is
such a tree (`Document.parse?_accepted`).
-/

namespace IssueSync.Xml

/-! ### Declarations and attributes -/

/-- What a tag may declare. -/
structure Binding.Declarable (binding : Binding) : Prop where
  label : binding.label ≠ some "xml"
  ordinary : binding.uri ≠ xmlUri
  allowed : binding.uri ≠ declarationUri

/-- What an accepted tag has declared. -/
structure Binding.Sound (binding : Binding) : Prop extends binding.Declarable where
  named : ∀ label, binding.label = some label → IsName label.toList
  characters : AllXml binding.uri.toList

/-- Every label of the scope is declared as labels are. -/
def Scope.Sound (scope : Scope) : Prop :=
  ∀ binding ∈ scope, binding.Sound

/-- No label proper is bound twice. -/
def Scope.LabelledOnce (scope : Scope) : Prop :=
  scope.Pairwise fun first second => first.label = second.label → first.label = none

/-- There is at most one binding without a label. -/
def Scope.UnlabelledOnce (scope : Scope) : Prop :=
  scope.Pairwise fun first second => ¬ (first.label = none ∧ second.label = none)

instance (scope : Scope) : Decidable scope.UnlabelledOnce :=
  inferInstanceAs (Decidable (scope.Pairwise _))

/-- An attribute of an accepted tag. -/
structure Attribute.Sound (scope : Scope) (item : Attribute) : Prop where
  named : IsName item.name.localName.toList
  ordinary : item.name.localName ≠ "xmlns"
  bound : ∀ uri, item.name.namespaceUri = some uri →
    uri = xmlUri ∨ ∃ label, scope.uriOf? label = some uri
  characters : AllXml item.value.toList

/-- The name and the attributes of an accepted tag. -/
structure Scope.Hosts (scope : Scope) (name : ExpandedName) (attributes : List Attribute) :
    Prop where
  named : IsName name.localName.toList
  bound : ∀ uri, name.namespaceUri = some uri → ∃ label, scope.uriOf? label = some uri
  free : name.namespaceUri = none → scope.uriOf? none = none
  sound : ∀ item ∈ attributes, item.Sound scope
  distinct : (attributes.map Attribute.name).Nodup

theorem Scope.sound_nil : Scope.Sound [] :=
  List.forall_mem_nil _

/-- Sound declarations inside sound ones are sound together. -/
theorem Scope.Sound.extend {outer own : Scope} (outerSound : outer.Sound) (ownSound : own.Sound) :
    (outer.extend own).Sound := by
  intro binding member
  rcases Scope.mem_extend member with inOwn | inOuter
  · exact ownSound binding inOwn
  · exact outerSound binding inOuter

/-- Declarations are distinct when each label and the default are declared once. -/
theorem Scope.distinct_of_once {scope : Scope} (labelled : scope.LabelledOnce)
    (unlabelled : scope.UnlabelledOnce) : scope.Distinct := by
  rw [Scope.Distinct, List.Nodup, List.pairwise_map]
  refine (labelled.and unlabelled).imp fun both same => ?_
  have none := both.1 same
  exact both.2 ⟨none, same ▸ none⟩

/-- What each step of a fold keeps, the whole fold keeps. -/
theorem foldlM_keeps {State Item : Type} {step : State → Item → Option State}
    (Keeps : State → Prop) {items : List Item}
    (each : ∀ item ∈ items, ∀ state next, Keeps state → step state item = some next → Keeps next)
    {start final : State} (started : Keeps start) (run : items.foldlM step start = some final) :
    Keeps final := by
  induction items generalizing start with
  | nil =>
      cases run
      exact started
  | cons item rest ih =>
      obtain ⟨next, first, more⟩ := Option.bind_eq_some_iff.mp run
      refine ih (fun other member => each other (List.mem_cons_of_mem _ member)) ?_ more
      exact each item List.mem_cons_self start next started first

/-- A name is one as a list of characters and as a text. -/
theorem isName_ofList {characters : List Char} (named : IsName characters) :
    IsName (String.ofList characters).toList := by
  rwa [String.toList_ofList]

/-- A sound binding may be added when its label, if it has one, is not yet bound. -/
theorem Scope.Sound.concat {scope : Scope} {binding : Binding} (scopeSound : scope.Sound)
    (once : scope.LabelledOnce) (sound : binding.Sound)
    (unbound : ∀ earlier ∈ scope, earlier.label = binding.label → earlier.label = none) :
    Scope.Sound (scope ++ [binding]) ∧ Scope.LabelledOnce (scope ++ [binding]) := by
  constructor
  · intro other listed
    rcases List.mem_append.mp listed with earlier | single
    · exact scopeSound other earlier
    · exact List.mem_singleton.mp single ▸ sound
  · refine List.pairwise_append.mpr ⟨once, List.pairwise_singleton _ _, ?_⟩
    intro earlier listed other single
    rw [List.mem_singleton.mp single]
    exact unbound earlier listed

/-- The declarations that are read are sound, and each label has one. -/
theorem declarations?_sound {items : List WrittenAttribute} {declared : Scope}
    (itemsSound : ItemsSound items) (read : declarations? items = some declared) :
    declared.Sound ∧ declared.LabelledOnce := by
  refine foldlM_keeps (fun scope => Scope.Sound scope ∧ Scope.LabelledOnce scope) ?_
    ⟨Scope.sound_nil, .nil⟩ read
  intro item member scope next ⟨scopeSound, once⟩ step
  obtain ⟨named, characters⟩ := itemsSound item member
  dsimp only at step
  split at step
  · split at step
    · cases step
    · next checks =>
        simp only [Bool.or_eq_true, decide_eq_true_eq, bne_iff_ne, not_or, ne_eq,
          decide_eq_decide, Decidable.not_not] at checks
        obtain ⟨⟨allowed, both⟩, unbound⟩ := checks
        split at step
        · cases step
          exact ⟨scopeSound, once⟩
        · next ordinary =>
            cases step
            refine scopeSound.concat once ⟨⟨?_, ordinary, allowed⟩, ?_, characters⟩ ?_
            · intro same
              exact ordinary (both.mp (Option.some.inj same))
            · intro label same
              cases same
              exact isName_ofList named.2
            · intro earlier listed same
              exact absurd (List.any_eq_true.mpr ⟨earlier, listed, decide_eq_true same⟩) unbound
  · split at step
    · split at step
      · cases step
      · next checks =>
          simp only [Bool.or_eq_true, decide_eq_true_eq, not_or] at checks
          cases step
          refine scopeSound.concat once ⟨⟨by simp, checks.1, checks.2⟩, by simp, characters⟩ ?_
          intro earlier listed same
          exact same
    · cases step
      exact ⟨scopeSound, once⟩

/-- The local name of an element is the written one. -/
theorem localName_elementName? {scope : Scope} {written : WrittenName} {name : ExpandedName}
    (found : elementName? scope written = some name) :
    name.localName = String.ofList written.localName := by
  simp only [elementName?] at found
  split at found
  · cases found
    rfl
  · split at found
    · cases found
    · obtain ⟨uri, -, rfl⟩ := Option.map_eq_some_iff.mp found
      rfl

/-- The local name of an attribute is the written one. -/
theorem localName_attributeName? {scope : Scope} {written : WrittenName} {name : ExpandedName}
    (found : attributeName? scope written = some name) :
    name.localName = String.ofList written.localName := by
  simp only [attributeName?] at found
  split at found
  · cases found
    rfl
  · split at found
    · cases found
      rfl
    · obtain ⟨uri, -, rfl⟩ := Option.map_eq_some_iff.mp found
      rfl

/-- One more attribute keeps the names apart when its own is new. -/
theorem nodup_names_concat {attributes : List Attribute} {item : Attribute} :
    ((attributes ++ [item]).map Attribute.name).Nodup ↔
      (attributes.map Attribute.name).Nodup ∧ attributes.any (·.name = item.name) = false := by
  rw [List.map_append, List.nodup_append, List.any_eq_false]
  simp

/-- The attributes with one more that is read, unless its name is there. -/
def addAttribute? (scope : Scope) (attributes : List Attribute) (item : WrittenAttribute) :
    Option (List Attribute) :=
  (attributeName? scope item.name).bind fun name =>
    if attributes.any (·.name = name) then none else some (attributes ++ [⟨name, item.value⟩])

/-- Attributes are added one after the other. -/
theorem attributes?_eq_foldlM (scope : Scope) (items : List WrittenAttribute) :
    attributes? scope items =
      (items.filter (!·.isDeclaration)).foldlM (addAttribute? scope) [] := by
  rw [attributes?]
  refine congrArg (List.foldlM · [] _) (funext fun attributes => funext fun item => ?_)
  rw [addAttribute?]
  cases attributeName? scope item.name with
  | none => rfl
  | some name => rfl

/-- An attribute is added when its name can be resolved and is new. -/
theorem addAttribute?_eq_some_iff {scope : Scope} {attributes next : List Attribute}
    {item : WrittenAttribute} (distinct : (attributes.map Attribute.name).Nodup) :
    addAttribute? scope attributes item = some next ↔
      ∃ read : Attribute, next = attributes ++ [read] ∧
        attributeName? scope item.name = some read.name ∧ item.value = read.value ∧
        (next.map Attribute.name).Nodup := by
  rw [addAttribute?, Option.bind_eq_some_iff]
  constructor
  · rintro ⟨name, found, step⟩
    split at step
    · cases step
    · next fresh =>
        cases step
        exact ⟨⟨name, item.value⟩, rfl, found, rfl,
          nodup_names_concat.mpr ⟨distinct, Bool.not_eq_true _ ▸ fresh⟩⟩
  · rintro ⟨read, rfl, found, value, whole⟩
    refine ⟨read.name, found, ?_⟩
    rw [(nodup_names_concat.mp whole).2, value]
    rfl

/-- Attributes are read one after the other and added to those that are there. -/
theorem foldlM_addAttribute?_eq_some_iff {scope : Scope} {items : List WrittenAttribute}
    {start result : List Attribute} (distinct : (start.map Attribute.name).Nodup) :
    items.foldlM (addAttribute? scope) start = some result ↔
      ∃ more, result = start ++ more ∧
        items.map (fun item => (attributeName? scope item.name, item.value)) =
          more.map (fun item => (some item.name, item.value)) ∧
        (result.map Attribute.name).Nodup := by
  induction items generalizing start with
  | nil =>
      constructor
      · intro same
        cases same
        exact ⟨[], by simp, rfl, distinct⟩
      · rintro ⟨more, rfl, none, -⟩
        rw [List.map_nil, eq_comm, List.map_eq_nil_iff] at none
        rw [none, List.append_nil]
        rfl
  | cons first others ih =>
      rw [List.foldlM_cons, Option.bind_eq_bind, Option.bind_eq_some_iff]
      constructor
      · rintro ⟨next, step, run⟩
        obtain ⟨read, rfl, found, value, nextDistinct⟩ :=
          (addAttribute?_eq_some_iff distinct).mp step
        obtain ⟨more, rfl, same, whole⟩ := (ih nextDistinct).mp run
        refine ⟨read :: more, by simp, ?_, whole⟩
        rw [List.map_cons, List.map_cons, same, found, value]
      · rintro ⟨more, rfl, same, whole⟩
        obtain ⟨head, tail, rfl, pair, restSame⟩ := List.map_eq_cons_iff.mp same.symm
        obtain ⟨found, value⟩ := Prod.mk.inj pair
        rw [List.append_cons] at whole
        have nextDistinct : ((start ++ [head]).map Attribute.name).Nodup := by
          rw [List.map_append] at whole
          exact (List.nodup_append.mp whole).1
        refine ⟨start ++ [head], ?_,
          (ih nextDistinct).mpr ⟨tail, by simp, restSame.symm, by simpa using whole⟩⟩
        exact (addAttribute?_eq_some_iff distinct).mpr
          ⟨head, rfl, found.symm, value.symm, nextDistinct⟩

/-- Attributes are read one by one, and no two of them have the same expanded
name. -/
theorem attributes?_eq_some_iff {scope : Scope} {items : List WrittenAttribute}
    {attributes : List Attribute} :
    attributes? scope items = some attributes ↔
      (items.filter (!·.isDeclaration)).map
          (fun item => (attributeName? scope item.name, item.value)) =
        attributes.map (fun item => (some item.name, item.value)) ∧
      (attributes.map Attribute.name).Nodup := by
  have none : (([] : List Attribute).map Attribute.name).Nodup := List.nodup_nil
  rw [attributes?_eq_foldlM, foldlM_addAttribute?_eq_some_iff none]
  simp

/-- The namespace of an element is in scope. -/
theorem elementName?_bound {scope : Scope} {written : WrittenName} {name : ExpandedName}
    (found : elementName? scope written = some name) :
    (∀ uri, name.namespaceUri = some uri → ∃ label, scope.uriOf? label = some uri) ∧
      (name.namespaceUri = none → scope.uriOf? none = none) := by
  simp only [elementName?] at found
  split at found
  · cases found
    exact ⟨fun uri bound => ⟨none, bound⟩, id⟩
  · split at found
    · cases found
    · obtain ⟨uri, bound, rfl⟩ := Option.map_eq_some_iff.mp found
      refine ⟨fun other same => ⟨_, Option.some.inj same ▸ bound⟩, fun none => ?_⟩
      cases none

/-- The namespace of an attribute is in scope, or is the one that always is. -/
theorem attributeName?_bound {scope : Scope} {written : WrittenName} {name : ExpandedName}
    (found : attributeName? scope written = some name) {uri : String}
    (given : name.namespaceUri = some uri) :
    uri = xmlUri ∨ ∃ label, scope.uriOf? label = some uri := by
  simp only [attributeName?] at found
  split at found
  · cases found
    cases given
  · split at found
    · cases found
      exact .inl (Option.some.inj given).symm
    · obtain ⟨other, bound, rfl⟩ := Option.map_eq_some_iff.mp found
      exact .inr ⟨_, Option.some.inj given ▸ bound⟩

theorem attributes?_sound {scope : Scope} {items : List WrittenAttribute}
    {attributes : List Attribute} (itemsSound : ItemsSound items)
    (read : attributes? scope items = some attributes) :
    ∀ item ∈ attributes, item.Sound scope := by
  intro item member
  have listed : (some item.name, item.value) ∈
      attributes.map fun item => (some item.name, item.value) :=
    List.mem_map_of_mem member
  rw [← (attributes?_eq_some_iff.mp read).1, List.mem_map] at listed
  obtain ⟨written, filtered, same⟩ := listed
  obtain ⟨found, value⟩ := Prod.mk.inj same
  obtain ⟨inItems, notDeclaration⟩ := List.mem_filter.mp filtered
  obtain ⟨named, characters⟩ := itemsSound written inItems
  have localName := localName_attributeName? found
  exact {
    named := by
      rw [localName]
      exact isName_ofList named.2
    ordinary := by
      intro declares
      rw [localName, ← String.toList_inj, String.toList_ofList] at declares
      simp [WrittenAttribute.isDeclaration, declares] at notDeclaration
    bound := fun uri given => attributeName?_bound found given
    characters := value ▸ characters }

/-- What a start tag opens: its name and its attributes are read in the scope
that its declarations make. -/
theorem openElement?_eq_some_iff {outer : Scope} {written : WrittenName}
    {items : List WrittenAttribute} {element : OpenElement} :
    openElement? outer written items = some element ↔
      ∃ declared name attributes, declarations? items = some declared ∧
        elementName? (outer.extend declared) written = some name ∧
        attributes? (outer.extend declared) items = some attributes ∧
        element = ⟨written, name, declared, attributes, outer.extend declared, []⟩ := by
  constructor
  · intro opened
    obtain ⟨declared, declarations, opened⟩ := Option.bind_eq_some_iff.mp opened
    obtain ⟨name, nameFound, opened⟩ := Option.bind_eq_some_iff.mp opened
    obtain ⟨attributes, attributesFound, opened⟩ := Option.bind_eq_some_iff.mp opened
    exact ⟨declared, name, attributes, declarations, nameFound, attributesFound,
      (Option.some.inj opened).symm⟩
  · rintro ⟨declared, name, attributes, declarations, nameFound, attributesFound, rfl⟩
    refine Option.bind_eq_some_iff.mpr ⟨declared, declarations, ?_⟩
    refine Option.bind_eq_some_iff.mpr ⟨name, nameFound, ?_⟩
    exact Option.bind_eq_some_iff.mpr ⟨attributes, attributesFound, rfl⟩

/-- What an accepted start tag opens. -/
theorem openElement?_sound {outer : Scope} {written : WrittenName}
    {items : List WrittenAttribute} {element : OpenElement} (writtenNamed : written.IsNamed)
    (itemsSound : ItemsSound items) (opened : openElement? outer written items = some element) :
    element.declared.Sound ∧ element.declared.LabelledOnce ∧
      element.scope = outer.extend element.declared ∧
      element.scope.Hosts element.name element.attributes := by
  obtain ⟨declared, name, attributes, declarations, nameFound, attributesFound, rfl⟩ :=
    openElement?_eq_some_iff.mp opened
  obtain ⟨declaredSound, once⟩ := declarations?_sound itemsSound declarations
  obtain ⟨bound, free⟩ := elementName?_bound nameFound
  refine ⟨declaredSound, once, rfl, ?_, bound, free, attributes?_sound itemsSound attributesFound,
    (attributes?_eq_some_iff.mp attributesFound).2⟩
  rw [localName_elementName? nameFound]
  exact isName_ofList writtenNamed.2

/-- An element that was just opened is empty. -/
theorem content_openElement? {outer : Scope} {written : WrittenName}
    {items : List WrittenAttribute} {element : OpenElement}
    (opened : openElement? outer written items = some element) : element.content = [] := by
  obtain ⟨declared, name, attributes, -, -, -, rfl⟩ := openElement?_eq_some_iff.mp opened
  rfl

/-! ### Trees -/

/-- Whether a node is a text. -/
def Node.isText : Node → Bool
  | text _ => true
  | _ => false

/-- Not both of the nodes are texts. -/
def Node.Apart (first second : Node) : Prop :=
  first.isText = true → second.isText = false

/-- A node of an accepted document inside the scope `outer`. -/
inductive Node.Accepted : Scope → Node → Prop where
  | element {outer : Scope} {name : ExpandedName} {declared : Scope}
      {attributes : List Attribute} {content : List Node} (sound : declared.Sound)
      (once : declared.LabelledOnce) (hosts : (outer.extend declared).Hosts name attributes)
      (inside : ∀ node ∈ content, Accepted (outer.extend declared) node)
      (apart : content.IsChain Node.Apart) :
      Accepted outer (.element name declared attributes content)
  | text {outer : Scope} {content : String} (characters : AllXml content.toList) :
      Accepted outer (.text content)
  | comment {outer : Scope} {content : String} (sound : IsComment content.toList) :
      Accepted outer (.comment content)
  | instruction {outer : Scope} {target : String} {value : Option String}
      (targetSound : IsTarget target.toList)
      (valueSound : ∀ content, value = some content → IsInstructionValue content.toList) :
      Accepted outer (.instruction target value)

/-- An accepted document. -/
structure Document.Accepted (document : Document) : Prop where
  nodes : ∀ node ∈ document.nodes, node.Accepted []
  noText : ∀ node ∈ document.nodes, node.isText = false
  single : document.nodes.countP Node.isElement = 1

theorem Node.Apart.symm {first second : Node} (apart : first.Apart second) :
    second.Apart first := by
  intro secondText
  cases firstText : first.isText with
  | false => rfl
  | true =>
      rw [apart firstText] at secondText
      cases secondText

theorem isChain_apart_cons {node : Node} {nodes : List Node} (noText : node.isText = false)
    (apart : nodes.IsChain Node.Apart) : (node :: nodes).IsChain Node.Apart := by
  refine List.isChain_cons.mpr ⟨fun next _ isText => ?_, apart⟩
  rw [noText] at isText
  cases isText

/-- Where there are no texts all nodes stand apart. -/
theorem isChain_apart_of_noText {nodes : List Node} (noText : ∀ node ∈ nodes, node.isText = false) :
    nodes.IsChain Node.Apart := by
  induction nodes with
  | nil => exact .nil
  | cons node rest ih =>
      obtain ⟨first, later⟩ := List.forall_mem_cons.mp noText
      exact isChain_apart_cons first (ih later)

/-- Nodes stand apart in reverse order as well. -/
theorem isChain_apart_reverse {nodes : List Node} (apart : nodes.IsChain Node.Apart) :
    nodes.reverse.IsChain Node.Apart :=
  List.isChain_reverse.mpr (apart.imp fun _ _ => Node.Apart.symm)

/-- Joining a text to the one before keeps texts apart. -/
theorem isChain_apart_joinText {nodes : List Node} (apart : nodes.IsChain Node.Apart)
    (content : String) : (joinText content nodes).IsChain Node.Apart := by
  rw [joinText.eq_def]
  split
  · next earlier rest =>
      obtain ⟨next, later⟩ := List.isChain_cons.mp apart
      exact List.isChain_cons.mpr ⟨next, later⟩
  · next noText =>
      refine List.isChain_cons.mpr ⟨fun next first _ => ?_, apart⟩
      obtain ⟨rest, same⟩ := List.head?_eq_some_iff.mp first
      cases next with
      | text earlier => exact absurd same (noText earlier rest)
      | element => rfl
      | comment => rfl
      | instruction => rfl

/-! ### The assembly -/

/-- An open element inside the scope `outer`. -/
structure OpenElement.Accepted (outer : Scope) (element : OpenElement) : Prop where
  sound : element.declared.Sound
  once : element.declared.LabelledOnce
  scope : element.scope = outer.extend element.declared
  hosts : element.scope.Hosts element.name element.attributes
  inside : ∀ node ∈ element.content, node.Accepted element.scope
  apart : element.content.IsChain Node.Apart

/-- The scope inside the innermost of open elements. -/
def scopeInside : List OpenElement → Scope
  | [] => []
  | innermost :: _ => innermost.scope

/-- Each of the open elements stands inside the next one. -/
def StackAccepted : List OpenElement → Prop
  | [] => True
  | innermost :: outer => innermost.Accepted (scopeInside outer) ∧ StackAccepted outer

/-- An element that was accepted so far is accepted when it is closed. -/
theorem OpenElement.Accepted.close {outer : Scope} {element : OpenElement}
    (accepted : element.Accepted outer) : element.close.Accepted outer := by
  obtain ⟨sound, once, scope, hosts, inside, apart⟩ := accepted
  rw [scope] at hosts inside
  exact .element sound once hosts (fun node member => inside node (List.mem_reverse.mp member))
    (isChain_apart_reverse apart)

namespace Assembly

/-- The declarations in force are those of the innermost open element. -/
theorem scope_eq (assembly : Assembly) : assembly.scope = scopeInside assembly.stack := by
  obtain ⟨stack, top⟩ := assembly
  cases stack with
  | nil => rfl
  | cons innermost outer => rfl

/-- The elements that are open and the nodes that are complete; at the top there
is no text, and at most one element, which may still be open. -/
structure Accepted (assembly : Assembly) : Prop where
  stack : StackAccepted assembly.stack
  top : ∀ node ∈ assembly.top, node.Accepted []
  noText : ∀ node ∈ assembly.top, node.isText = false
  single : assembly.top.countP Node.isElement ≤ 1
  opening : assembly.stack ≠ [] → assembly.top.countP Node.isElement = 0

/-- Before anything was read nothing is wrong. -/
theorem accepted_initial : Assembly.initial.Accepted :=
  ⟨trivial, List.forall_mem_nil _, List.forall_mem_nil _, Nat.zero_le 1, fun _ => rfl⟩

/-- An accepted node may be added, if it is no text and no second element at the top. -/
theorem Accepted.add {assembly : Assembly} {node : Node} (accepted : assembly.Accepted)
    (nodeAccepted : node.Accepted (scopeInside assembly.stack)) (noText : node.isText = false)
    (single : node.isElement = true → assembly.top.countP Node.isElement = 0) :
    (assembly.add node).Accepted := by
  rw [Assembly.add]
  split
  · next none =>
      rw [none] at nodeAccepted
      refine ⟨accepted.stack, List.forall_mem_cons.mpr ⟨nodeAccepted, accepted.top⟩,
        List.forall_mem_cons.mpr ⟨noText, accepted.noText⟩, ?_, fun opened => absurd none opened⟩
      rw [List.countP_cons]
      split
      · next isElement => rw [single isElement]
      · exact accepted.single
  · next innermost outer same =>
      have stack := accepted.stack
      rw [same] at stack nodeAccepted
      obtain ⟨innermostAccepted, outerAccepted⟩ := stack
      refine ⟨⟨?_, outerAccepted⟩, accepted.top, accepted.noText, accepted.single,
        fun _ => accepted.opening (same ▸ List.cons_ne_nil _ _)⟩
      exact { innermostAccepted with
        inside := List.forall_mem_cons.mpr ⟨nodeAccepted, innermostAccepted.inside⟩
        apart := isChain_apart_cons noText innermostAccepted.apart }

/-- A text that is joined to the one before has its characters. -/
theorem accepted_joinText {scope : Scope} {nodes : List Node} {content : String}
    (accepted : ∀ node ∈ nodes, node.Accepted scope) (characters : AllXml content.toList) :
    ∀ node ∈ joinText content nodes, node.Accepted scope := by
  rw [joinText.eq_def]
  split
  · next earlier rest =>
      obtain ⟨first, later⟩ := List.forall_mem_cons.mp accepted
      refine List.forall_mem_cons.mpr ⟨?_, later⟩
      cases first with
      | text earlierCharacters =>
          refine .text ?_
          rw [String.toList_append]
          exact List.forall_mem_append.mpr ⟨earlierCharacters, characters⟩
  · exact List.forall_mem_cons.mpr ⟨.text characters, accepted⟩

/-- A text of allowed characters may be added. -/
theorem addText?_accepted {assembly next : Assembly} {content : String}
    (accepted : assembly.Accepted) (characters : AllXml content.toList)
    (added : assembly.addText? content = some next) : next.Accepted := by
  rw [addText?] at added
  split at added
  · cases added
  · next innermost outer same =>
      cases added
      have stack := accepted.stack
      rw [same] at stack
      obtain ⟨innermostAccepted, outerAccepted⟩ := stack
      refine ⟨⟨?_, outerAccepted⟩, accepted.top, accepted.noText, accepted.single,
        fun _ => accepted.opening (same ▸ List.cons_ne_nil _ _)⟩
      exact { innermostAccepted with
        inside := accepted_joinText innermostAccepted.inside characters
        apart := isChain_apart_joinText innermostAccepted.apart content }

/-- Each piece leads from an accepted assembly to an accepted one. -/
theorem step?_accepted {assembly next : Assembly} {piece : Piece} (accepted : assembly.Accepted)
    (pieceSound : piece.Sound) (step : assembly.step? piece = some next) : next.Accepted := by
  cases piece with
  | comment content =>
      cases step
      exact accepted.add (.comment pieceSound) rfl nofun
  | instruction target value =>
      cases step
      exact accepted.add (.instruction pieceSound.1 pieceSound.2) rfl nofun
  | characters raw =>
      rw [step?] at step
      split at step
      · split at step
        · cases step
          exact accepted
        · cases step
      · obtain ⟨content, read, added⟩ := Option.bind_eq_some_iff.mp step
        exact addText?_accepted accepted (textOf?_allXml pieceSound read) added
  | sectionData content => exact addText?_accepted accepted pieceSound step
  | startTag written items closed =>
      rw [step?] at step
      split at step
      · cases step
      · next admitted =>
          obtain ⟨element, opened, same⟩ := Option.map_eq_some_iff.mp step
          obtain ⟨sound, once, scope, hosts⟩ := openElement?_sound pieceSound.1 pieceSound.2 opened
          have noElement : assembly.top.countP Node.isElement = 0 := by
            by_cases none : assembly.stack = []
            · rw [List.countP_eq_zero]
              intro node member isElement
              refine admitted ?_
              rw [none, List.isEmpty_nil, Bool.true_and]
              exact List.any_eq_true.mpr ⟨node, member, isElement⟩
            · exact accepted.opening none
          rw [assembly.scope_eq] at scope
          have content : element.content = [] := content_openElement? opened
          have elementAccepted : element.Accepted (scopeInside assembly.stack) := {
            sound := sound
            once := once
            scope := scope
            hosts := hosts
            inside := content ▸ List.forall_mem_nil _
            apart := content ▸ .nil }
          split at same
          · subst same
            exact accepted.add elementAccepted.close rfl fun _ => noElement
          · subst same
            exact ⟨⟨elementAccepted, accepted.stack⟩, accepted.top, accepted.noText,
              accepted.single, fun _ => noElement⟩
  | endTag written =>
      rw [step?] at step
      split at step
      · cases step
      · next innermost outer same =>
          split at step
          · cases step
            have stack := accepted.stack
            have noElement := accepted.opening (same ▸ List.cons_ne_nil _ _)
            rw [same] at stack
            obtain ⟨innermostAccepted, outerAccepted⟩ := stack
            have rest : Accepted { assembly with stack := outer } :=
              ⟨outerAccepted, accepted.top, accepted.noText, accepted.single, fun _ => noElement⟩
            exact rest.add innermostAccepted.close rfl fun _ => noElement
          · cases step

end Assembly

/-- A document that is parsed is accepted. -/
theorem Document.parse?_accepted {text : String} {document : Document}
    (parsed : Document.parse? text = some document) : document.Accepted := by
  obtain ⟨body, -, read⟩ := Option.bind_eq_some_iff.mp parsed
  obtain ⟨pieces, cut, assembled⟩ := Option.bind_eq_some_iff.mp read
  obtain ⟨assembly, run, finished⟩ := Option.bind_eq_some_iff.mp assembled
  have accepted : assembly.Accepted :=
    foldlM_keeps Assembly.Accepted (fun piece member state next stateAccepted step =>
      Assembly.step?_accepted stateAccepted (pieces?_sound cut piece member) step)
      Assembly.accepted_initial run
  rw [Assembly.finish?] at finished
  split at finished
  · next complete =>
      cases finished
      rw [Bool.and_eq_true, List.any_eq_true] at complete
      obtain ⟨-, node, member, isElement⟩ := complete
      have some : 0 < assembly.top.countP Node.isElement :=
        List.countP_pos_iff.mpr ⟨node, member, isElement⟩
      refine ⟨fun node member => accepted.top node (List.mem_reverse.mp member),
        fun node member => accepted.noText node (List.mem_reverse.mp member), ?_⟩
      rw [List.countP_reverse]
      exact Nat.le_antisymm accepted.single some
  · cases finished

end IssueSync.Xml
