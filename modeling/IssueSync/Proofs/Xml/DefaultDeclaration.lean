import IssueSync.Proofs.Xml.DefaultNamespace
import IssueSync.Proofs.Xml.TopTag

/-! # The declaration of a default namespace

With the declaration in its start tag, the top element is read as one in the
namespace (`openElement?_add`), and what is assembled inside it differs in nothing
but the namespace of the elements (`Assembly.Inside.step?_within`). So the document
with the declaration is the one without it, put into the namespace
(`Document.ofPieces?_within`). That there are no other declarations is known of the
whole document, and is traced back from its end to each of the pieces
(`Assembly.undeclared_of_steps?`).
-/

namespace IssueSync.Xml

/-! ### Start tags -/

section StartTags

variable {uri : String} {written : WrittenName}

/-- The scope with the declaration of an attribute, if it is one. -/
def declare? (declared : Scope) (item : WrittenAttribute) : Option Scope :=
  if item.name.label = "xmlns".toList then
    let label := String.ofList item.name.localName
    if item.value = declarationUri || (label = "xml") != (item.value = xmlUri) ||
        declared.binds (some label) then none
    else if item.value = xmlUri then some declared
    else some (declared ++ [⟨some label, item.value⟩])
  else if item.name.localName = "xmlns".toList then
    if item.value = xmlUri || item.value = declarationUri then none
    else some (declared ++ [⟨none, item.value⟩])
  else some declared

/-- Declarations are read one attribute after the other. -/
theorem declarations?_eq_foldlM (items : List WrittenAttribute) :
    declarations? items = items.foldlM declare? [] :=
  rfl

/-- What was declared before stays. -/
theorem prefix_of_declare? {declared next : Scope} {item : WrittenAttribute}
    (step : declare? declared item = some next) : declared <+: next := by
  unfold declare? at step
  split at step
  · dsimp only at step
    split at step
    · cases step
    · split at step
      · cases step
        exact List.prefix_rfl
      · cases step
        exact List.prefix_append _ _
  · split at step
    · split at step
      · cases step
      · cases step
        exact List.prefix_append _ _
    · cases step
      exact List.prefix_rfl

/-- What declares nothing may stand beside the declaration of a default. -/
theorem declare?_default {item : WrittenAttribute} (step : declare? [] item = some []) :
    declare? (.default uri) item = some (.default uri) := by
  unfold declare? at step ⊢
  split at step
  · next labelled =>
      dsimp only at step
      rw [if_pos labelled]
      dsimp only
      split at step
      · cases step
      · next checks =>
          split at step
          · next ordinary =>
              rw [if_neg (by simpa [Scope.default, Scope.binds] using checks), if_pos ordinary]
          · cases step
  · next unlabelled =>
      rw [if_neg unlabelled]
      split at step
      · split at step
        · cases step
        · cases step
      · next other => rw [if_neg other]

/-- Where nothing is declared in the end, nothing was declared before. -/
theorem eq_nil_of_foldlM_declare? {declared : Scope} {items : List WrittenAttribute}
    (run : items.foldlM declare? declared = some []) : declared = [] := by
  apply List.prefix_nil.mp
  apply foldlM_keeps (declared <+: ·) _ List.prefix_rfl run
  exact fun _ _ _ _ earlier step => earlier.trans (prefix_of_declare? step)

/-- Attributes that declare nothing do so behind a default namespace as well. -/
theorem foldlM_declare?_default {items : List WrittenAttribute}
    (run : items.foldlM declare? [] = some []) :
    items.foldlM declare? (.default uri) = some (.default uri) := by
  induction items with
  | nil => rfl
  | cons item rest ih =>
      obtain ⟨next, step, more⟩ := Option.bind_eq_some_iff.mp run
      obtain rfl := eq_nil_of_foldlM_declare? more
      exact Option.bind_eq_some_iff.mpr ⟨_, declare?_default step, ih more⟩

/-- The declaration of an allowed namespace is accepted. -/
theorem declare?_defaultItem (ordinary : uri ≠ xmlUri) (allowed : uri ≠ declarationUri) :
    declare? [] (defaultItem uri) = some (.default uri) := by
  simp [declare?, defaultItem, ordinary, allowed, Scope.default]

/-- Among attributes that declare nothing it is the only declaration. -/
theorem declarations?_add {before after : List WrittenAttribute} (ordinary : uri ≠ xmlUri)
    (allowed : uri ≠ declarationUri) (read : declarations? (before ++ after) = some []) :
    declarations? (before ++ defaultItem uri :: after) = some (.default uri) := by
  rw [declarations?_eq_foldlM, List.foldlM_append] at read
  obtain ⟨middle, first, second⟩ := Option.bind_eq_some_iff.mp read
  obtain rfl := eq_nil_of_foldlM_declare? second
  rw [declarations?_eq_foldlM, List.foldlM_append]
  apply Option.bind_eq_some_iff.mpr
  refine ⟨[], first, Option.bind_eq_some_iff.mpr ?_⟩
  exact ⟨_, declare?_defaultItem ordinary allowed, foldlM_declare?_default second⟩

/-- Names without a label are in the namespace. -/
theorem elementName?_default {name : ExpandedName} (found : elementName? [] written = some name) :
    elementName? (.default uri) written = some (name.within uri) := by
  unfold elementName? at found ⊢
  dsimp only at found ⊢
  split at found
  · next unlabelled =>
      cases found
      rw [if_pos unlabelled]
      rfl
  · split at found
    · cases found
    · cases found

/-- Attributes without a label are not. -/
theorem attributes?_default (uri : String) (items : List WrittenAttribute) :
    attributes? (.default uri) items = attributes? [] items :=
  rfl

/-- The declaration is none of the attributes. -/
theorem attributes?_add (scope : Scope) (uri : String) (before after : List WrittenAttribute) :
    attributes? scope (before ++ defaultItem uri :: after) =
      attributes? scope (before ++ after) := by
  have declares : (defaultItem uri).isDeclaration = true := rfl
  rw [attributes?_eq_foldlM, attributes?_eq_foldlM, List.filter_append, List.filter_append,
    List.filter_cons, declares]
  rfl

end StartTags

/-- The open element in the namespace, with more declarations. -/
def OpenElement.within (uri : String) (own : Scope) (element : OpenElement) : OpenElement :=
  { element with
    name := element.name.within uri
    declared := own ++ element.declared
    scope := .default uri
    content := Node.withinAll uri element.content }

section OpenElements

variable {uri : String} {written : WrittenName} {items before after : List WrittenAttribute}
  {element : OpenElement}

/-- Closing an element and putting it in the namespace can be done in either order. -/
theorem OpenElement.close_within (own : Scope) :
    (element.within uri own).close = element.close.within uri own := by
  rw [OpenElement.close, OpenElement.close, Node.within, Node.withinAll_eq_map,
    List.map_reverse, ← Node.withinAll_eq_map]
  rfl

/-- An element inside the namespace opens as before, in the namespace. -/
theorem openElement?_within (opened : openElement? [] written items = some element)
    (undeclared : element.declared = []) :
    openElement? (.default uri) written items = some (element.within uri []) := by
  obtain ⟨declared, name, attributes, declarations, nameFound, attributesFound, rfl⟩ :=
    openElement?_eq_some_iff.mp opened
  obtain rfl : declared = [] := undeclared
  apply openElement?_eq_some_iff.mpr
  exact ⟨[], name.within uri, attributes, declarations, elementName?_default nameFound,
    (attributes?_default uri items).trans attributesFound, rfl⟩

/-- Without declarations of its own an element has none in force. -/
theorem scope_openElement? (opened : openElement? [] written items = some element)
    (undeclared : element.declared = []) : element.scope = [] := by
  obtain ⟨declared, name, attributes, -, -, -, rfl⟩ := openElement?_eq_some_iff.mp opened
  obtain rfl : declared = [] := undeclared
  rfl

/-- The top element opens in the namespace when the declaration is added to its tag. -/
theorem openElement?_add (ordinary : uri ≠ xmlUri) (allowed : uri ≠ declarationUri)
    (opened : openElement? [] written (before ++ after) = some element)
    (undeclared : element.declared = []) :
    openElement? [] written (before ++ defaultItem uri :: after) =
      some (element.within uri (.default uri)) := by
  obtain ⟨declared, name, attributes, declarations, nameFound, attributesFound, rfl⟩ :=
    openElement?_eq_some_iff.mp opened
  obtain rfl : declared = [] := undeclared
  apply openElement?_eq_some_iff.mpr
  have others := (attributes?_add [] uri before after).trans attributesFound
  exact ⟨.default uri, name.within uri, attributes,
    declarations?_add ordinary allowed declarations, elementName?_default nameFound,
    (attributes?_default uri _).trans others, rfl⟩

end OpenElements

/-! ### Assemblies without declarations -/

/-- Joining a text hides no declaration. -/
theorem undeclared_joinText {content : String} {nodes : List Node}
    (undeclared : ∀ node ∈ joinText content nodes, node.Undeclared) :
    ∀ node ∈ nodes, node.Undeclared := by
  rw [joinText.eq_def] at undeclared
  split at undeclared
  · obtain ⟨-, others⟩ := List.forall_mem_cons.mp undeclared
    exact List.forall_mem_cons.mpr ⟨Node.undeclared_of_isElement_eq_false rfl, others⟩
  · exact (List.forall_mem_cons.mp undeclared).2

/-- Neither the open element nor what has been read of it declares a namespace. -/
def OpenElement.Undeclared (element : OpenElement) : Prop :=
  element.declared = [] ∧ ∀ node ∈ element.content, node.Undeclared

/-- An element has declarations or not, open or closed. -/
theorem OpenElement.undeclared_close {element : OpenElement} :
    element.close.Undeclared ↔ element.Undeclared := by
  rw [OpenElement.close, Node.undeclared_element_iff]
  simp only [List.mem_reverse]
  rfl

namespace Assembly

/-- Nothing that was read so far has declarations. -/
structure Undeclared (assembly : Assembly) : Prop where
  stack : ∀ element ∈ assembly.stack, element.Undeclared
  top : ∀ node ∈ assembly.top, node.Undeclared

/-- Adding a node hides no declaration. -/
theorem undeclared_of_add {assembly : Assembly} {node : Node}
    (undeclared : (assembly.add node).Undeclared) : assembly.Undeclared ∧ node.Undeclared := by
  obtain ⟨stack, top⟩ := assembly
  obtain ⟨inStack, inTop⟩ := undeclared
  cases stack with
  | nil =>
      obtain ⟨first, others⟩ := List.forall_mem_cons.mp inTop
      exact ⟨⟨inStack, others⟩, first⟩
  | cons innermost outer =>
      obtain ⟨⟨noneHere, content⟩, outerBare⟩ := List.forall_mem_cons.mp inStack
      obtain ⟨first, others⟩ := List.forall_mem_cons.mp content
      exact ⟨⟨List.forall_mem_cons.mpr ⟨⟨noneHere, others⟩, outerBare⟩, inTop⟩, first⟩

/-- Adding a text hides no declaration. -/
theorem undeclared_of_addText? {assembly next : Assembly} {content : String}
    (added : assembly.addText? content = some next) (undeclared : next.Undeclared) :
    assembly.Undeclared := by
  obtain ⟨stack, top⟩ := assembly
  obtain ⟨inStack, inTop⟩ := undeclared
  cases stack with
  | nil => cases added
  | cons innermost outer =>
      cases added
      obtain ⟨⟨noneHere, inside⟩, outerBare⟩ := List.forall_mem_cons.mp inStack
      exact ⟨List.forall_mem_cons.mpr ⟨⟨noneHere, undeclared_joinText inside⟩, outerBare⟩, inTop⟩

/-- The assembly after a start tag that opens the element. -/
def opened (assembly : Assembly) (closed : Bool) (element : OpenElement) : Assembly :=
  if closed then assembly.add element.close
  else { assembly with stack := element :: assembly.stack }

/-- A start tag opens an element, unless there is one at the top already. -/
theorem step?_startTag (assembly : Assembly) (written : WrittenName)
    (items : List WrittenAttribute) (closed : Bool) :
    assembly.step? (.startTag written items closed) =
      if assembly.stack.isEmpty && assembly.top.any Node.isElement then none
      else (openElement? assembly.scope written items).map (assembly.opened closed) :=
  rfl

/-- Opening an element hides no declaration. -/
theorem undeclared_of_opened {assembly : Assembly} {closed : Bool} {element : OpenElement}
    (undeclared : (assembly.opened closed element).Undeclared) :
    assembly.Undeclared ∧ element.declared = [] := by
  cases closed with
  | true =>
      obtain ⟨before, closing⟩ := undeclared_of_add undeclared
      exact ⟨before, (OpenElement.undeclared_close.mp closing).1⟩
  | false =>
      obtain ⟨first, others⟩ := List.forall_mem_cons.mp undeclared.stack
      exact ⟨⟨others, undeclared.top⟩, first.1⟩

/-- Declarations are not lost: where there are none after a piece, there were none
before it. -/
theorem undeclared_of_step? {assembly next : Assembly} {piece : Piece}
    (step : assembly.step? piece = some next) (undeclared : next.Undeclared) :
    assembly.Undeclared := by
  cases piece with
  | comment content =>
      cases step
      exact (undeclared_of_add undeclared).1
  | instruction target value =>
      cases step
      exact (undeclared_of_add undeclared).1
  | characters raw =>
      rw [step?] at step
      split at step
      · split at step
        · cases step
          exact undeclared
        · cases step
      · obtain ⟨content, -, added⟩ := Option.bind_eq_some_iff.mp step
        exact undeclared_of_addText? added undeclared
  | sectionData content => exact undeclared_of_addText? step undeclared
  | startTag written items closed =>
      rw [step?_startTag] at step
      split at step
      · cases step
      · obtain ⟨element, -, rfl⟩ := Option.map_eq_some_iff.mp step
        exact (undeclared_of_opened undeclared).1
  | endTag written =>
      obtain ⟨stack, top⟩ := assembly
      rw [step?] at step
      cases stack with
      | nil => cases step
      | cons innermost outer =>
          dsimp only at step
          split at step
          · cases step
            obtain ⟨⟨outerBare, inTop⟩, closed⟩ := undeclared_of_add undeclared
            have innermostBare := OpenElement.undeclared_close.mp closed
            exact ⟨List.forall_mem_cons.mpr ⟨innermostBare, outerBare⟩, inTop⟩
          · cases step

/-- What is without declarations in the end was so all along. -/
theorem undeclared_of_steps? {assembly final : Assembly} {pieces : List Piece}
    (run : assembly.steps? pieces = some final) (undeclared : final.Undeclared) :
    assembly.Undeclared := by
  induction pieces generalizing assembly with
  | nil =>
      cases run
      exact undeclared
  | cons piece rest ih =>
      obtain ⟨next, step, more⟩ := Option.bind_eq_some_iff.mp run
      exact undeclared_of_step? step (ih more)

end Assembly

/-! ### The assembly -/

/-- What the innermost element declares within the outer ones: the outermost one
declares the namespace. -/
def ownWithin (uri : String) (outer : List OpenElement) : Scope :=
  if outer.isEmpty then .default uri else []

/-- The open elements in the namespace, which the outermost one declares. -/
def stackWithin (uri : String) : List OpenElement → List OpenElement
  | [] => []
  | element :: outer => element.within uri (ownWithin uri outer) :: stackWithin uri outer

namespace Assembly

/-- The assembly with all elements in one namespace. -/
def within (uri : String) (assembly : Assembly) : Assembly where
  stack := stackWithin uri assembly.stack
  top := assembly.top.map (Node.within uri (.default uri))

theorem stack_within (uri : String) (assembly : Assembly) :
    (assembly.within uri).stack = stackWithin uri assembly.stack :=
  rfl

theorem top_within (uri : String) (assembly : Assembly) :
    (assembly.within uri).top = assembly.top.map (Node.within uri (.default uri)) :=
  rfl

/-- The top element is open or complete, and no namespace is bound in it. -/
structure Inside (assembly : Assembly) : Prop where
  bare : ∀ element ∈ assembly.stack, element.scope = []
  started : assembly.stack = [] → assembly.top.any Node.isElement = true

variable {uri : String} {assembly next : Assembly} {node : Node}

/-- No namespace is bound where the next piece stands. -/
theorem Inside.scope (inside : assembly.Inside) : assembly.scope = [] := by
  obtain ⟨stack, top⟩ := assembly
  cases stack with
  | nil => rfl
  | cons innermost outer => exact inside.bare innermost List.mem_cons_self

/-- In the namespace its declaration is in force inside every element. -/
theorem scope_within (filled : assembly.stack ≠ []) :
    (assembly.within uri).scope = .default uri := by
  obtain ⟨stack, top⟩ := assembly
  cases stack with
  | nil => exact absurd rfl filled
  | cons innermost outer => rfl

/-- Only the outermost element declares the namespace. -/
theorem ownWithin_of_ne_nil {outer : List OpenElement} (filled : outer ≠ []) :
    ownWithin uri outer = [] := by
  rw [ownWithin, List.isEmpty_eq_false_iff.mpr filled]
  rfl

/-- A node may be added when the top element was begun, or is this node. -/
theorem inside_add (bare : ∀ element ∈ assembly.stack, element.scope = [])
    (started : assembly.stack = [] → (node :: assembly.top).any Node.isElement = true) :
    (assembly.add node).Inside := by
  obtain ⟨stack, top⟩ := assembly
  cases stack with
  | nil => exact ⟨bare, started⟩
  | cons innermost outer =>
      obtain ⟨first, others⟩ := List.forall_mem_cons.mp bare
      exact ⟨List.forall_mem_cons.mpr ⟨first, others⟩, nofun⟩

/-- Opening an element begins the top element, if it was not begun before. -/
theorem inside_opened {closed : Bool} {element : OpenElement}
    (bare : ∀ element ∈ assembly.stack, element.scope = []) (elementBare : element.scope = []) :
    (assembly.opened closed element).Inside := by
  cases closed with
  | true => exact inside_add bare fun _ => rfl
  | false => exact ⟨List.forall_mem_cons.mpr ⟨elementBare, bare⟩, nofun⟩

/-- Once the top element was begun any node may be added. -/
theorem Inside.add (inside : assembly.Inside) : (assembly.add node).Inside := by
  refine inside_add inside.bare fun none => ?_
  rw [List.any_cons, inside.started none, Bool.or_true]

/-- Adding a node and putting all in the namespace can be done in either order. -/
theorem within_add :
    (assembly.add node).within uri =
      (assembly.within uri).add (node.within uri (ownWithin uri assembly.stack)) := by
  obtain ⟨stack, top⟩ := assembly
  cases stack with
  | nil => rfl
  | cons innermost outer => rfl

/-- Opening an element and putting all in the namespace can be done in either order. -/
theorem within_opened {closed : Bool} {element : OpenElement} :
    (assembly.opened closed element).within uri =
      (assembly.within uri).opened closed (element.within uri (ownWithin uri assembly.stack)) := by
  cases closed with
  | true =>
      change (assembly.add _).within uri = (assembly.within uri).add _
      rw [within_add, OpenElement.close_within]
  | false => rfl

/-- A node that is no element is added as it is. -/
theorem within_add_of_isElement_eq_false (other : node.isElement = false) :
    (assembly.add node).within uri = (assembly.within uri).add node := by
  rw [within_add, Node.within_of_isElement_eq_false _ _ other]

/-- A text is added as it is. -/
theorem addText?_within (content : String) :
    (assembly.within uri).addText? content = (assembly.addText? content).map (within uri) := by
  obtain ⟨stack, top⟩ := assembly
  cases stack with
  | nil => rfl
  | cons innermost outer =>
      change some (Assembly.mk (_ :: _) _) = some (Assembly.mk (_ :: _) _)
      rw [OpenElement.within, OpenElement.within, Node.withinAll_joinText]
      rfl

/-- Texts are only added inside an element. -/
theorem inside_of_addText? {content : String} (inside : assembly.Inside)
    (added : assembly.addText? content = some next) : next.Inside := by
  obtain ⟨stack, top⟩ := assembly
  cases stack with
  | nil => cases added
  | cons innermost outer =>
      cases added
      obtain ⟨first, others⟩ := List.forall_mem_cons.mp inside.bare
      exact ⟨List.forall_mem_cons.mpr ⟨first, others⟩, nofun⟩

/-- As many elements are open. -/
theorem isEmpty_stackWithin (stack : List OpenElement) :
    (stackWithin uri stack).isEmpty = stack.isEmpty := by
  cases stack with
  | nil => rfl
  | cons innermost outer => rfl

/-- There is an element at the top or not, as before. -/
theorem any_isElement_within (nodes : List Node) :
    (nodes.map (Node.within uri (.default uri))).any Node.isElement = nodes.any Node.isElement := by
  simp only [List.any_map, Function.comp_def, Node.isElement_within]

/-- Each piece inside the top element does the same in the namespace. -/
theorem Inside.step?_within {piece : Piece} (inside : assembly.Inside)
    (step : assembly.step? piece = some next) (undeclared : next.Undeclared) :
    next.Inside ∧ (assembly.within uri).step? piece = some (next.within uri) := by
  cases piece with
  | comment content =>
      cases step
      exact ⟨inside.add, congrArg some (within_add_of_isElement_eq_false rfl).symm⟩
  | instruction target value =>
      cases step
      exact ⟨inside.add, congrArg some (within_add_of_isElement_eq_false rfl).symm⟩
  | characters raw =>
      rw [step?] at step ⊢
      rw [within, isEmpty_stackWithin, ← within]
      split at step
      · next outside =>
          split at step
          · next spaces =>
              cases step
              rw [if_pos outside, if_pos spaces]
              exact ⟨inside, rfl⟩
          · cases step
      · next stillOpen =>
          obtain ⟨content, read, added⟩ := Option.bind_eq_some_iff.mp step
          rw [if_neg stillOpen, read, Option.bind_some, addText?_within, added]
          exact ⟨inside_of_addText? inside added, rfl⟩
  | sectionData content =>
      refine ⟨inside_of_addText? inside step, ?_⟩
      exact (addText?_within content).trans (congrArg (Option.map (within uri)) step)
  | startTag written items closed =>
      rw [step?_startTag] at step ⊢
      rw [stack_within, isEmpty_stackWithin, top_within, any_isElement_within]
      split at step
      · cases step
      · next admitted =>
          obtain ⟨element, opened, rfl⟩ := Option.map_eq_some_iff.mp step
          -- A second top element is not admitted, so this one is inside the first.
          have filled : assembly.stack ≠ [] := by
            intro none
            apply admitted
            rw [none, inside.started none]
            rfl
          have none := (undeclared_of_opened undeclared).2
          rw [inside.scope] at opened
          refine ⟨inside_opened inside.bare (scope_openElement? opened none), ?_⟩
          rw [if_neg admitted, scope_within filled, openElement?_within opened none,
            Option.map_some, within_opened, ownWithin_of_ne_nil filled]
  | endTag written =>
      obtain ⟨stack, top⟩ := assembly
      cases stack with
      | nil => cases step
      | cons innermost outer =>
          simp only [step?] at step
          split at step
          · next same =>
              cases step
              obtain ⟨-, outerBare⟩ := List.forall_mem_cons.mp inside.bare
              refine ⟨inside_add outerBare fun _ => rfl, ?_⟩
              rw [within_add, ← OpenElement.close_within]
              exact if_pos same
          · cases step

/-- **The rest of the run.** Behind the top tag all pieces do the same in the namespace. -/
theorem Inside.steps?_within {final : Assembly} {pieces : List Piece} (inside : assembly.Inside)
    (run : assembly.steps? pieces = some final) (undeclared : final.Undeclared) :
    (assembly.within uri).steps? pieces = some (final.within uri) := by
  induction pieces generalizing assembly with
  | nil =>
      cases run
      rfl
  | cons piece rest ih =>
      obtain ⟨next, step, more⟩ := Option.bind_eq_some_iff.mp run
      obtain ⟨nextInside, same⟩ :=
        inside.step?_within step (undeclared_of_steps? more undeclared)
      exact Option.bind_eq_some_iff.mpr ⟨next.within uri, same, ih nextInside more⟩

/-- The document that is read in the end is in the namespace. -/
theorem finish?_within (uri : String) (assembly : Assembly) :
    (assembly.within uri).finish? = assembly.finish?.map (Document.within uri) := by
  rw [finish?, finish?, stack_within, isEmpty_stackWithin, top_within, any_isElement_within]
  split
  · rw [Option.map_some, Document.within, List.map_reverse]
  · rfl

/-- A document without declarations was read without any. -/
theorem undeclared_of_finish? {document : Document} (finished : assembly.finish? = some document)
    (undeclared : document.Undeclared) : assembly.Undeclared := by
  rw [finish?] at finished
  split at finished
  · next complete =>
      cases finished
      rw [Bool.and_eq_true, List.isEmpty_iff] at complete
      refine ⟨complete.1 ▸ List.forall_mem_nil _, fun node member => ?_⟩
      exact Document.undeclared_iff.mp undeclared node (List.mem_reverse.mpr member)
  · cases finished

/-! ### Before the top element -/

/-- The top element is still to come. -/
structure Outside (assembly : Assembly) : Prop where
  stack : assembly.stack = []
  noElement : assembly.top.any Node.isElement = false

/-- Comments and instructions leave the top element to come. -/
theorem Outside.step?_misc {piece : Piece} (outside : assembly.Outside)
    (misc : piece.isMisc = true) (step : assembly.step? piece = some next) : next.Outside := by
  obtain ⟨stack, top⟩ := assembly
  obtain ⟨rfl, noElement⟩ := outside
  cases piece with
  | comment | instruction =>
      cases step
      exact ⟨rfl, noElement⟩
  | characters raw =>
      rw [step?, if_pos (by rfl)] at step
      split at step
      · cases step
        exact ⟨rfl, noElement⟩
      · cases step
  | startTag | endTag | sectionData => cases misc

/-- What is assembled to a document begins with its top element, but for what may
stand before it. -/
theorem Outside.exists_startTag {final : Assembly} {document : Document} {pieces : List Piece}
    (outside : assembly.Outside) (run : assembly.steps? pieces = some final)
    (finished : final.finish? = some document) :
    ∃ front name items closed back, (∀ piece ∈ front, piece.isMisc = true) ∧
      pieces = front ++ .startTag name items closed :: back := by
  induction pieces generalizing assembly with
  | nil =>
      cases run
      rw [finish?, outside.noElement, Bool.and_false] at finished
      cases finished
  | cons piece rest ih =>
      obtain ⟨next, step, more⟩ := Option.bind_eq_some_iff.mp run
      have later (misc : piece.isMisc = true) :
          ∃ front name items closed back, (∀ piece ∈ front, piece.isMisc = true) ∧
            piece :: rest = front ++ .startTag name items closed :: back := by
        obtain ⟨front, name, items, closed, back, frontMisc, rfl⟩ :=
          ih (outside.step?_misc misc step) more
        exact ⟨piece :: front, name, items, closed, back,
          List.forall_mem_cons.mpr ⟨misc, frontMisc⟩, rfl⟩
      cases piece with
      | startTag name items closed =>
          exact ⟨[], name, items, closed, rest, List.forall_mem_nil _, rfl⟩
      | comment | instruction | characters => exact later rfl
      | endTag | sectionData =>
          obtain ⟨stack, top⟩ := assembly
          obtain ⟨rfl, -⟩ := outside
          cases step

/-- Outside the top element there is nothing to put in the namespace. -/
theorem Outside.within (outside : assembly.Outside) : assembly.within uri = assembly := by
  obtain ⟨stack, top⟩ := assembly
  obtain ⟨rfl, noElement⟩ := outside
  have same : top.map (Node.within uri (.default uri)) = top := by
    have each : ∀ node ∈ top, node.within uri (.default uri) = id node := fun node listed =>
      Node.within_of_isElement_eq_false _ _
        (Bool.eq_false_iff.mpr (List.any_eq_false.mp noElement node listed))
    exact (List.map_congr_left each).trans (List.map_id top)
  exact congrArg (Assembly.mk []) same

end Assembly

namespace Document

variable {uri : String} {document : Document} {pieces front back : List Piece} {name : WrittenName}
  {before after : List WrittenAttribute} {closed : Bool}

/-- The declaration of a default namespace in the first start tag puts all elements
of the document into it. -/
theorem ofPieces?_within (ordinary : uri ≠ xmlUri) (allowed : uri ≠ declarationUri)
    (misc : ∀ piece ∈ front, piece.isMisc = true)
    (read : ofPieces? (front ++ .startTag name (before ++ after) closed :: back) = some document)
    (undeclared : document.Undeclared) :
    ofPieces? (front ++ .startTag name (before ++ defaultItem uri :: after) closed :: back) =
      some (document.within uri) := by
  obtain ⟨final, run, finished⟩ := Option.bind_eq_some_iff.mp read
  rw [List.foldlM_append] at run
  obtain ⟨start, begun, run⟩ := Option.bind_eq_some_iff.mp run
  obtain ⟨next, step, more⟩ := Option.bind_eq_some_iff.mp run
  have finalBare := Assembly.undeclared_of_finish? finished undeclared
  have outside : start.Outside := foldlM_keeps Assembly.Outside
    (fun piece listed _ _ earlier => earlier.step?_misc (misc piece listed)) ⟨rfl, rfl⟩ begun
  rw [Assembly.step?_startTag] at step
  split at step
  · cases step
  · next admitted =>
      obtain ⟨element, opened, rfl⟩ := Option.map_eq_some_iff.mp step
      have none := (Assembly.undeclared_of_opened (Assembly.undeclared_of_steps? more finalBare)).2
      have scope : start.scope = [] := by
        rw [Assembly.scope, outside.stack]
      rw [scope] at opened
      have inside : (start.opened closed element).Inside := by
        apply Assembly.inside_opened _ (scope_openElement? opened none)
        rw [outside.stack]
        exact List.forall_mem_nil _
      have declared : start.step? (.startTag name (before ++ defaultItem uri :: after) closed) =
          some ((start.opened closed element).within uri) := by
        rw [Assembly.step?_startTag, if_neg admitted, scope,
          openElement?_add ordinary allowed opened none, Option.map_some, Assembly.within_opened,
          outside.within, outside.stack]
        rfl
      refine Option.bind_eq_some_iff.mpr ⟨final.within uri, ?_, ?_⟩
      · rw [List.foldlM_append]
        apply Option.bind_eq_some_iff.mpr
        refine ⟨start, begun, Option.bind_eq_some_iff.mpr ⟨_, declared, ?_⟩⟩
        exact inside.steps?_within more finalBare
      · rw [Assembly.finish?_within, finished, Option.map_some]

/-- The first piece of a document that is neither comment nor instruction nor white space is
the top tag. -/
theorem exists_startTag_of_ofPieces? (read : ofPieces? pieces = some document) :
    ∃ front name items closed back, (∀ piece ∈ front, piece.isMisc = true) ∧
      pieces = front ++ .startTag name items closed :: back := by
  obtain ⟨final, run, finished⟩ := Option.bind_eq_some_iff.mp read
  have outside : Assembly.initial.Outside := ⟨rfl, rfl⟩
  exact outside.exists_startTag run finished

end Document

end IssueSync.Xml
