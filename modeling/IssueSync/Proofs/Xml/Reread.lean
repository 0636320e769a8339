import IssueSync.Proofs.Xml.MarkupPieces

/-! # Nodes that are read again

What the markup of a node is read as depends only on the node and on the scope
around it: its tag opens what `openElement?` makes of the written names, a text
comes back with its line ends normalized, and an empty text not at all
(`Node.reread?`). Wherever a node may stand, the pieces of its markup add just these
nodes to the assembly (`Node.Accepted.assembles`).
-/

namespace IssueSync.Xml

mutual

/-- What the markup of a node is read as inside the scope `read`, unless it is
refused. -/
def Node.reread? (outer read : Scope) : Node → Option (List Node)
  | .element name declared attributes content =>
      let scope := outer.extend declared
      (openElement? read (scope.writtenName name)
          ((startItems outer scope attributes).map WrittenAttribute.again)).bind fun element =>
        (Node.rereadInside? scope element.scope content).map fun nodes =>
          [.element element.name element.declared element.attributes nodes]
  | .text content => some (if content = "" then [] else [.text (textAgain content)])
  | .comment content => some [.comment content]
  | .instruction target value =>
      if IsMisread target value then none else some [.instruction target value]

/-- What several nodes are read back as. -/
def Node.rereadInside? (outer read : Scope) : List Node → Option (List Node)
  | [] => some []
  | node :: rest =>
      (Node.reread? outer read node).bind fun first =>
        (Node.rereadInside? outer read rest).map (first ++ ·)

end

/-- At most one node comes back, and it is an element when the node is. -/
theorem Node.reread?_single {outer read : Scope} {node : Node} {nodes : List Node}
    (found : node.reread? outer read = some nodes) :
    nodes = [] ∧ node.isText = true ∨
      ∃ again, nodes = [again] ∧ again.isElement = node.isElement ∧
        again.isText = node.isText := by
  cases node with
  | element name declared attributes content =>
      rw [Node.reread?] at found
      obtain ⟨element, -, inside⟩ := Option.bind_eq_some_iff.mp found
      obtain ⟨more, -, rfl⟩ := Option.map_eq_some_iff.mp inside
      exact .inr ⟨_, rfl, rfl, rfl⟩
  | text content =>
      rw [Node.reread?] at found
      cases found
      split
      · exact .inl ⟨rfl, rfl⟩
      · exact .inr ⟨_, rfl, rfl, rfl⟩
  | comment content =>
      rw [Node.reread?] at found
      cases found
      exact .inr ⟨_, rfl, rfl, rfl⟩
  | instruction target value =>
      rw [Node.reread?] at found
      split at found
      · cases found
      · cases found
        exact .inr ⟨_, rfl, rfl, rfl⟩

/-- Elements are read back as elements, other nodes as others. -/
theorem Node.countP_reread? {outer read : Scope} {node : Node} {nodes : List Node}
    (found : node.reread? outer read = some nodes) :
    nodes.countP Node.isElement = [node].countP Node.isElement := by
  rcases Node.reread?_single found with ⟨rfl, isText⟩ | ⟨again, rfl, same, -⟩
  · cases node with
    | text content => rfl
    | element => cases isText
    | comment => cases isText
    | instruction => cases isText
  · rw [List.countP_singleton, List.countP_singleton, same]

/-! ### Pieces put together -/

/-- The element with more nodes in it. -/
def OpenElement.filled (element : OpenElement) (nodes : List Node) : OpenElement :=
  { element with content := nodes.reverse ++ element.content }

/-- An open element keeps its name as it is written, which the end tag has to match. -/
theorem written_openElement? {outer : Scope} {written : WrittenName}
    {items : List WrittenAttribute} {element : OpenElement}
    (opened : openElement? outer written items = some element) : element.written = written := by
  obtain ⟨declared, name, attributes, -, -, -, rfl⟩ := openElement?_eq_some_iff.mp opened
  rfl

namespace Assembly

/-- The assembly after all the pieces. -/
def steps? (assembly : Assembly) (pieces : List Piece) : Option Assembly :=
  pieces.foldlM Assembly.step? assembly

/-- The assembly with nodes added, one after the other. -/
def addAll (assembly : Assembly) (nodes : List Node) : Assembly :=
  nodes.foldl Assembly.add assembly

/-- Pieces do what the first ones do and then the others. -/
theorem steps?_append (assembly : Assembly) (first second : List Piece) :
    assembly.steps? (first ++ second) =
      (assembly.steps? first).bind fun next => next.steps? second :=
  List.foldlM_append

theorem steps?_singleton (assembly : Assembly) (piece : Piece) :
    assembly.steps? [piece] = assembly.step? piece := by
  simp [steps?]

theorem addAll_append (assembly : Assembly) (first second : List Node) :
    assembly.addAll (first ++ second) = (assembly.addAll first).addAll second :=
  List.foldl_append

/-- Inside an element nodes are added to it. -/
theorem addAll_inside (innermost : OpenElement) (stack : List OpenElement) (top nodes : List Node) :
    addAll ⟨innermost :: stack, top⟩ nodes = ⟨innermost.filled nodes :: stack, top⟩ := by
  induction nodes generalizing innermost with
  | nil => rfl
  | cons node rest ih =>
      have step : addAll ⟨innermost :: stack, top⟩ (node :: rest) =
          addAll ⟨innermost.filled [node] :: stack, top⟩ rest := rfl
      rw [step, ih]
      simp [OpenElement.filled]

/-- Outside all elements nodes are added at the top. -/
theorem addAll_top (top nodes : List Node) :
    addAll ⟨[], top⟩ nodes = ⟨[], nodes.reverse ++ top⟩ := by
  induction nodes generalizing top with
  | nil => rfl
  | cons node rest ih =>
      have step : addAll ⟨[], top⟩ (node :: rest) = addAll ⟨[], node :: top⟩ rest := rfl
      rw [step, ih]
      simp

/-- Adding nodes leaves the declarations in force. -/
theorem scope_addAll (assembly : Assembly) (nodes : List Node) :
    (assembly.addAll nodes).scope = assembly.scope := by
  obtain ⟨stack, top⟩ := assembly
  cases stack with
  | nil => rw [addAll_top]; rfl
  | cons innermost outer => rw [addAll_inside]; rfl

/-- The nodes may come next: no text stands at the top or beside a text, and
there is one element at the top at most. -/
structure Admits (assembly : Assembly) (nodes : List Node) : Prop where
  apart : nodes.IsChain Node.Apart
  inside : ∀ innermost outer, assembly.stack = innermost :: outer →
    ∀ first, nodes.head? = some first → first.isText = true →
      ∀ last, innermost.content.head? = some last → last.isText = false
  top : assembly.stack = [] → (∀ node ∈ nodes, node.isText = false) ∧
    assembly.top.countP Node.isElement + nodes.countP Node.isElement ≤ 1

/-- What admits several nodes admits the first one. -/
theorem Admits.head {assembly : Assembly} {node : Node} {rest : List Node}
    (admits : assembly.Admits (node :: rest)) : assembly.Admits [node] where
  apart := List.isChain_singleton node
  inside := admits.inside
  top none := by
    obtain ⟨noText, single⟩ := admits.top none
    rw [← List.singleton_append, List.countP_append] at single
    refine ⟨fun other member => ?_, by omega⟩
    rw [List.mem_singleton.mp member]
    exact noText node List.mem_cons_self

/-- What comes back of a node leaves room for those after it. -/
theorem Admits.tail {assembly : Assembly} {outer read : Scope} {node : Node}
    {rest again : List Node} (admits : assembly.Admits (node :: rest))
    (found : node.reread? outer read = some again) : (assembly.addAll again).Admits rest := by
  obtain ⟨apart, inside, top⟩ := admits
  obtain ⟨next, restApart⟩ := List.isChain_cons.mp apart
  obtain ⟨stack, topNodes⟩ := assembly
  cases stack with
  | nil =>
      obtain ⟨noText, single⟩ := top rfl
      rw [← List.singleton_append, List.countP_append, ← Node.countP_reread? found] at single
      rw [addAll_top]
      refine ⟨restApart, nofun, fun _ =>
        ⟨fun other member => noText other (List.mem_cons_of_mem _ member), ?_⟩⟩
      rw [List.countP_append, List.countP_reverse]
      dsimp only at single
      omega
  | cons innermost outer =>
      rw [addAll_inside]
      refine ⟨restApart, fun other more same first begins firstText last lastSame => ?_, nofun⟩
      cases same
      -- What stands before a text is no text, and comes back as no text.
      have noText : node.isText = false := by
        cases isText : node.isText with
        | false => rfl
        | true =>
            rw [next first begins isText] at firstText
            cases firstText
      rcases Node.reread?_single found with ⟨-, isText⟩ | ⟨single, rfl, -, same⟩
      · rw [noText] at isText
        cases isText
      · cases lastSame
        rw [same, noText]

end Assembly

/-- The pieces of the node add what it is read as, wherever it may stand. -/
def Assembles (outer : Scope) (node : Node) : Prop :=
  ∀ assembly : Assembly, assembly.Admits [node] →
    (node.pieces? outer).bind assembly.steps? =
      (node.reread? outer assembly.scope).map assembly.addAll

/-- Several nodes are assembled when each one is. -/
theorem assembles_inside {outer : Scope} {nodes : List Node}
    (each : ∀ node ∈ nodes, Assembles outer node) (assembly : Assembly)
    (admits : assembly.Admits nodes) :
    (Node.piecesInside? outer nodes).bind assembly.steps? =
      (Node.rereadInside? outer assembly.scope nodes).map assembly.addAll := by
  induction nodes generalizing assembly with
  | nil => rfl
  | cons node rest ih =>
      obtain ⟨first, later⟩ := List.forall_mem_cons.mp each
      have head := first assembly admits.head
      rw [Node.piecesInside?, Node.rereadInside?]
      cases again : node.reread? outer assembly.scope with
      | none =>
          rw [again, Option.map_none, Option.bind_eq_none_iff] at head
          rw [Option.bind_none, Option.map_none, Option.bind_eq_none_iff]
          intro pieces found
          obtain ⟨firstPieces, read, found⟩ := Option.bind_eq_some_iff.mp found
          obtain ⟨restPieces, -, rfl⟩ := Option.map_eq_some_iff.mp found
          rw [Assembly.steps?_append, head firstPieces read, Option.bind_none]
      | some firstAgain =>
          rw [again, Option.map_some] at head
          obtain ⟨firstPieces, pieces, run⟩ := Option.bind_eq_some_iff.mp head
          have tail := ih later (assembly.addAll firstAgain) (admits.tail again)
          rw [assembly.scope_addAll] at tail
          have steps : ∀ more, assembly.steps? (firstPieces ++ more) =
              (assembly.addAll firstAgain).steps? more := by
            intro more
            rw [Assembly.steps?_append, run, Option.bind_some]
          have added : ∀ more, assembly.addAll (firstAgain ++ more) =
              (assembly.addAll firstAgain).addAll more := assembly.addAll_append firstAgain
          rw [pieces, Option.bind_some, Option.bind_map, Option.bind_some, Option.map_map]
          simpa only [Function.comp_def, steps, added] using tail

/-! ### Tags -/

namespace Assembly

variable {assembly : Assembly} {element : OpenElement} {tag : WrittenName}
  {items : List WrittenAttribute}

/-- The assembly with the element opened in it. -/
def push (assembly : Assembly) (element : OpenElement) : Assembly :=
  { assembly with stack := element :: assembly.stack }

/-- A start tag that is admitted opens its element, and closes it at once if it says so. -/
theorem Admits.step?_startTag {name : ExpandedName} {declared : Scope}
    {attributes : List Attribute} {content : List Node}
    (admits : assembly.Admits [.element name declared attributes content]) (closed : Bool) :
    assembly.step? (.startTag tag items closed) =
      (openElement? assembly.scope tag items).map fun element =>
        if closed then assembly.add element.close else assembly.push element := by
  have admitted : (assembly.stack.isEmpty && assembly.top.any Node.isElement) = false := by
    cases stack : assembly.stack with
    | cons innermost more => rfl
    | nil =>
        have single := (admits.top stack).2
        rw [List.countP_singleton, Node.isElement, if_pos rfl] at single
        have none : assembly.top.countP Node.isElement = 0 := by omega
        rw [List.isEmpty_nil, Bool.true_and, List.any_eq_false]
        exact List.countP_eq_zero.mp none
  rw [step?, admitted, if_neg Bool.false_ne_true]
  rfl

/-- The nodes may stand first inside an element that is opened. -/
theorem admits_push (assembly : Assembly) (noContent : element.content = []) {nodes : List Node}
    (apart : nodes.IsChain Node.Apart) : (assembly.push element).Admits nodes where
  apart := apart
  inside innermost outer same first begins isText last lastSame := by
    cases same
    rw [noContent] at lastSame
    cases lastSame
  top none := absurd none (List.cons_ne_nil _ _)

/-- The end tag closes the element around the nodes in it. -/
theorem step?_endTag (assembly : Assembly) (noContent : element.content = []) (nodes : List Node) :
    ((assembly.push element).addAll nodes).step? (.endTag element.written) =
      some (assembly.add
        (.element element.name element.declared element.attributes nodes)) := by
  have close : (element.filled nodes).close =
      .element element.name element.declared element.attributes nodes := by
    simp [OpenElement.close, OpenElement.filled, noContent]
  rw [push, addAll_inside, step?, ← close]
  exact if_pos rfl

end Assembly

/-- The pieces of an element open it, add its content and close it. -/
theorem assembles_element {outer : Scope} {name : ExpandedName} {declared : Scope}
    {attributes : List Attribute} {content : List Node}
    (inside : ∀ node ∈ content, Assembles (outer.extend declared) node)
    (apart : content.IsChain Node.Apart) :
    Assembles outer (.element name declared attributes content) := by
  intro assembly admits
  rw [Node.pieces?, Node.reread?]
  generalize (outer.extend declared).writtenName name = tag
  generalize (startItems outer (outer.extend declared) attributes).map WrittenAttribute.again =
    items
  cases opened : openElement? assembly.scope tag items with
  | none =>
      have refused : ∀ closed rest,
          assembly.steps? (.startTag tag items closed :: rest) = none := by
        intro closed rest
        rw [← List.singleton_append, Assembly.steps?_append, Assembly.steps?_singleton,
          admits.step?_startTag, opened]
        rfl
      split
      · exact refused true []
      · rw [Option.bind_none, Option.map_none, Option.bind_eq_none_iff]
        intro pieces found
        obtain ⟨insidePieces, -, rfl⟩ := Option.map_eq_some_iff.mp found
        exact refused false _
  | some element =>
      have noContent := content_openElement? opened
      obtain rfl := written_openElement? opened
      rw [Option.bind_some]
      split
      · next blank =>
          have close : element.close =
              .element element.name element.declared element.attributes [] := by
            rw [OpenElement.close, noContent, List.reverse_nil]
          rw [List.isEmpty_iff.mp blank, Option.bind_some, Assembly.steps?_singleton,
            admits.step?_startTag, opened, Option.map_some, if_pos rfl, close]
          rfl
      · have middle := assembles_inside inside (assembly.push element)
          (assembly.admits_push noContent apart)
        have scope : (assembly.push element).scope = element.scope := rfl
        have whole : ∀ pieces, assembly.steps?
            (.startTag element.written items false :: (pieces ++ [.endTag element.written])) =
            ((assembly.push element).steps? pieces).bind
              (Assembly.step? · (.endTag element.written)) := by
          intro pieces
          rw [← List.singleton_append, Assembly.steps?_append, Assembly.steps?_singleton,
            admits.step?_startTag, opened, Option.map_some, Option.bind_some,
            if_neg Bool.false_ne_true, Assembly.steps?_append]
          simp only [Assembly.steps?_singleton]
        rw [Option.bind_map, Option.map_map]
        simp only [Function.comp_def, whole]
        rw [← Option.bind_assoc, middle, scope, Option.bind_map]
        simp only [Function.comp_def, assembly.step?_endTag noContent]
        exact Option.map_eq_bind.symm

/-- A text behind something else is a node of its own. -/
theorem joinText_of_noText {nodes : List Node} (content : String)
    (noText : ∀ last, nodes.head? = some last → last.isText = false) :
    joinText content nodes = .text content :: nodes := by
  rw [joinText.eq_def]
  split
  · cases noText _ rfl
  · rfl

/-- The pieces of an accepted node add what it is read as. -/
theorem Node.Accepted.assembles {outer : Scope} {node : Node} (accepted : node.Accepted outer) :
    Assembles outer node := by
  induction accepted with
  | element sound once hosts inside apart ih => exact assembles_element ih apart
  | @text outer content characters =>
      intro assembly admits
      rw [Node.pieces?, Node.reread?]
      split
      · rfl
      · obtain ⟨stack, top⟩ := assembly
        cases stack with
        | nil => cases (admits.top rfl).1 _ List.mem_cons_self
        | cons innermost more =>
            have apart := admits.inside innermost more rfl _ rfl rfl
            rw [Option.bind_some, Assembly.steps?_singleton, Assembly.step?]
            dsimp only
            rw [List.isEmpty_cons, if_neg Bool.false_ne_true, textOf?_escape, Option.bind_some,
              Assembly.addText?]
            dsimp only
            rw [joinText_of_noText (textAgain content) apart]
            rfl
  | comment sound => exact fun _ _ => rfl
  | instruction targetSound valueSound =>
      intro assembly admits
      rw [Node.pieces?, Node.reread?]
      split
      · rfl
      · rfl

end IssueSync.Xml
