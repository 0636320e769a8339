import IssueSync.Proofs.Xml.DataKept

/-! # A document in a default namespace

The elements of a document without declarations are in no namespace
(`Node.Accepted.plain`). When they are all put into one that the top element
declares as the default (`Document.within`), texts stay as they are, and so does
the markup of the nodes inside: the labels of their names are left out in both
(`Node.Plain.markup_within`).
-/

namespace IssueSync.Xml

/-! ### Trees -/

/-- The scope that binds unlabelled element names and nothing else. -/
def Scope.default (uri : String) : Scope := [⟨none, uri⟩]

/-- A name in the namespace. -/
def ExpandedName.within (uri : String) (name : ExpandedName) : ExpandedName :=
  { name with namespaceUri := some uri }

mutual

/-- The node with all its elements in one namespace, and more declarations in the
outermost of them. -/
def Node.within (uri : String) (own : Scope) : Node → Node
  | .element name declared attributes content =>
      .element (name.within uri) (own ++ declared) attributes (Node.withinAll uri content)
  | node => node

/-- Several nodes in the namespace. -/
def Node.withinAll (uri : String) : List Node → List Node
  | [] => []
  | node :: rest => Node.within uri [] node :: Node.withinAll uri rest

end

/-- The document with all elements in one namespace, which its top element
declares. -/
def Document.within (uri : String) (document : Document) : Document :=
  ⟨document.nodes.map (Node.within uri (.default uri))⟩

section Trees

variable (uri : String) (own : Scope)

/-- Nodes are put in the namespace one by one. -/
theorem Node.withinAll_eq_map (nodes : List Node) :
    Node.withinAll uri nodes = nodes.map (Node.within uri []) := by
  induction nodes with
  | nil => rfl
  | cons node rest ih => rw [Node.withinAll, List.map_cons, ih]

/-- Elements stay elements. -/
theorem Node.isElement_within (node : Node) : (node.within uri own).isElement = node.isElement := by
  cases node with
  | element | text | comment | instruction => rfl

/-- Other nodes have no namespace. -/
theorem Node.within_of_isElement_eq_false {node : Node} (other : node.isElement = false) :
    node.within uri own = node := by
  cases node with
  | element => cases other
  | text | comment | instruction => rfl

/-- Texts join as before. -/
theorem Node.withinAll_joinText (content : String) (nodes : List Node) :
    Node.withinAll uri (joinText content nodes) = joinText content (Node.withinAll uri nodes) := by
  cases nodes with
  | nil => rfl
  | cons node rest =>
      cases node with
      | element | text | comment | instruction => rfl

end Trees

/-! ### Trees without declarations -/

/-- No element of the node declares a namespace. -/
def Node.Undeclared (node : Node) : Prop :=
  ∀ place ∈ node.places [], place.node.declared = []

/-- An element has no declarations when its tag and the nodes inside have none. -/
theorem Node.undeclared_element_iff {name : ExpandedName} {declared : Scope}
    {attributes : List Attribute} {content : List Node} :
    (Node.element name declared attributes content).Undeclared ↔
      declared = [] ∧ ∀ node ∈ content, node.Undeclared := by
  rw [Node.Undeclared, Node.places, List.forall_mem_cons, forall_mem_placesInside]
  refine and_congr_right fun none => ?_
  rw [show declared = [] from none]
  rfl

/-- Other nodes have no declarations. -/
theorem Node.undeclared_of_isElement_eq_false {node : Node} (other : node.isElement = false) :
    node.Undeclared := by
  cases node with
  | element => cases other
  | text | comment | instruction =>
      intro place listed
      rw [Node.places, List.mem_singleton] at listed
      · rw [listed]
        rfl
      · simp

/-- A document has no declarations when its nodes have none. -/
theorem Document.undeclared_iff {document : Document} :
    document.Undeclared ↔ ∀ node ∈ document.nodes, node.Undeclared :=
  forall_mem_placesInside

/-- The name is written alike in all scopes. -/
def ExpandedName.Fixed (name : ExpandedName) : Prop :=
  name.namespaceUri = none ∨ name.namespaceUri = some xmlUri

/-- A node in which no name has a namespace, but for the attributes of the label
`xml`. -/
inductive Node.Plain : Node → Prop where
  | element {name : String} {attributes : List Attribute} {content : List Node}
      (fixed : ∀ item ∈ attributes, item.name.Fixed)
      (inside : ∀ node ∈ content, Plain node) : Plain (.element ⟨none, name⟩ [] attributes content)
  | text {content : String} : Plain (.text content)
  | comment {content : String} : Plain (.comment content)
  | instruction {target : String} {value : Option String} : Plain (.instruction target value)

/-- Without declarations, a label can be no other than `xml`. -/
theorem Node.Accepted.plain {outer : Scope} {node : Node} (accepted : node.Accepted outer)
    (nowhere : outer = []) (undeclared : node.Undeclared) : node.Plain := by
  induction accepted with
  | @element outer name declared attributes content sound once hosts inside apart ih =>
      subst nowhere
      obtain ⟨rfl, contentBare⟩ := Node.undeclared_element_iff.mp undeclared
      have unbound : ∀ {label uri}, Scope.uriOf? (Scope.extend [] []) label ≠ some uri := nofun
      obtain ⟨namespaceUri, localName⟩ := name
      cases namespaceUri with
      | some uri =>
          obtain ⟨label, bound⟩ := hosts.bound uri rfl
          exact absurd bound unbound
      | none =>
          refine .element (fun item listed => ?_) fun node listed =>
            ih node listed rfl (contentBare node listed)
          cases given : item.name.namespaceUri with
          | none => exact .inl given
          | some uri =>
              rcases (hosts.sound item listed).bound uri given with rfl | ⟨label, bound⟩
              · exact .inr given
              · exact absurd bound unbound
  | text => exact .text
  | comment => exact .comment
  | instruction => exact .instruction

/-! ### Markup -/

/-- A tag introduces nothing that is in force already. -/
theorem Scope.introduced_self (scope : Scope) : scope.introduced scope = [] := by
  rw [Scope.introduced, List.filter_eq_nil_iff]
  intro binding listed
  simp [listed]

/-- A fixed name is written the same under all declarations. -/
theorem ExpandedName.Fixed.qualify_eq {name : ExpandedName} (fixed : name.Fixed)
    (scope other : Scope) : scope.qualify name = other.qualify name := by
  unfold Scope.qualify
  rcases fixed with none | reserved
  · rw [none]
  · rw [reserved]
    simp only [if_true]

/-- A name in the default namespace is written without a label. -/
theorem Scope.qualify_default {uri : String} (ordinary : uri ≠ xmlUri) (localName : String) :
    (Scope.default uri).qualify ⟨some uri, localName⟩ = localName := by
  simp [Scope.qualify, Scope.default, Scope.labelOf?, ordinary]

/-- The rest of a tag is written as without the namespace. -/
theorem startTagRest_default {attributes : List Attribute} (uri : String)
    (fixed : ∀ item ∈ attributes, item.name.Fixed) :
    startTagRest (.default uri) (.default uri) attributes = startTagRest [] [] attributes := by
  unfold startTagRest
  rw [Scope.introduced_self, Scope.introduced_self]
  have each : ∀ item ∈ attributes, writePair ((Scope.default uri).qualify item.name) item.value =
      writePair (Scope.qualify [] item.name) item.value := by
    intro item listed
    rw [(fixed item listed).qualify_eq _ []]
  rw [List.map_congr_left each]

/-- Inside the top element, all that is written stays. -/
theorem Node.Plain.markup_within {uri : String} {node : Node} (plain : node.Plain)
    (ordinary : uri ≠ xmlUri) :
    (node.within uri []).markup (.default uri) = node.markup [] := by
  induction plain with
  | @element name attributes content fixed inside ih =>
      apply Node.markup_congr
      · exact Scope.qualify_default ordinary name
      · exact startTagRest_default uri fixed
      · rw [Node.withinAll_eq_map, List.isEmpty_map]
      · rw [Node.withinAll_eq_map, Node.markupAll_eq_join, Node.markupAll_eq_join, List.map_map]
        exact congrArg String.join (List.map_congr_left ih)
  | text | comment => rfl
  | @instruction target value =>
      cases value with
      | none => rfl
      | some value => rfl

mutual

/-- The text inside a node does not depend on namespaces. -/
theorem Node.innerText_within (uri : String) (own : Scope) :
    ∀ node : Node, (node.within uri own).innerText = node.innerText
  | .element _ _ _ content => Node.innerTexts_withinAll uri content
  | .text _ | .comment _ | .instruction .. => rfl

/-- Nor does that inside several nodes. -/
theorem Node.innerTexts_withinAll (uri : String) :
    ∀ nodes : List Node, Node.innerTexts (Node.withinAll uri nodes) = Node.innerTexts nodes
  | [] => rfl
  | node :: rest => by
      rw [Node.withinAll, Node.innerTexts, Node.innerTexts, Node.innerText_within,
        Node.innerTexts_withinAll]

end

end IssueSync.Xml
