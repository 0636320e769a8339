import IssueSync.Xml.Namespace

/-! # Document trees

A document is the list of its top nodes; the elements below carry their
expanded name, the namespace declarations they make, their attributes and
their content. Elements are looked up by local name in any namespace, and
attributes by local name among those without a namespace.
-/

namespace IssueSync.Xml

/-- An attribute with its value, decoded. -/
structure Attribute where
  name : ExpandedName
  value : String
  deriving DecidableEq, Repr

/-- What a document is made of. Declarations of namespaces stand apart from attributes. -/
inductive Node where
  | element (name : ExpandedName) (declared : Scope) (attributes : List Attribute)
      (content : List Node)
  | text (content : String)
  | comment (content : String)
  | instruction (target : String) (value : Option String)
  deriving Repr

/-- The default node is the empty text. -/
instance : Inhabited Node := ⟨.text ""⟩

namespace Node

mutual

/-- Nodes are compared part by part. -/
def decEq : (first second : Node) → Decidable (first = second)
  | element name declared attributes content,
      element otherName otherDeclared otherAttributes otherContent =>
      if same : name = otherName ∧ declared = otherDeclared ∧ attributes = otherAttributes then
        match decEqs content otherContent with
        | isTrue inside => isTrue (by rw [same.1, same.2.1, same.2.2, inside])
        | isFalse inside => isFalse (by simp [inside])
      else
        isFalse fun equal => same (by cases equal; exact ⟨rfl, rfl, rfl⟩)
  | text content, text other => decidable_of_iff (content = other) (by rw [text.injEq])
  | comment content, comment other => decidable_of_iff (content = other) (by rw [comment.injEq])
  | instruction target value, instruction otherTarget otherValue =>
      decidable_of_iff (target = otherTarget ∧ value = otherValue) (by rw [instruction.injEq])
  | element .., text _ | element .., comment _ | element .., instruction .. | text _, element ..
  | text _, comment _ | text _, instruction .. | comment _, element .. | comment _, text _
  | comment _, instruction .. | instruction .., element .. | instruction .., text _
  | instruction .., comment _ => isFalse nofun

/-- Lists of nodes are compared node by node. -/
def decEqs : (first second : List Node) → Decidable (first = second)
  | [], [] => isTrue rfl
  | [], _ :: _ | _ :: _, [] => isFalse nofun
  | node :: rest, other :: others =>
      match decEq node other, decEqs rest others with
      | isTrue same, isTrue more => isTrue (by rw [same, more])
      | isFalse different, _ => isFalse (by simp [different])
      | _, isFalse different => isFalse (by simp [different])

end

/-- Whether two nodes are equal can be decided. -/
instance : DecidableEq Node := decEq

end Node

/-- A document: its one top element and the comments and processing
instructions around it. -/
structure Document where
  nodes : List Node
  deriving DecidableEq, Repr, Inhabited

namespace Node

/-- Whether a node is an element. -/
def isElement : Node → Bool
  | element .. => true
  | _ => false

/-- The name of an element without its namespace. -/
def localName? : Node → Option String
  | element name .. => some name.localName
  | _ => none

/-- Whether a node is an element with this name in any namespace. -/
def isNamed (node : Node) (localName : String) : Bool :=
  node.localName? = some localName

/-- The declarations in the start tag. -/
def declared : Node → Scope
  | element _ declared .. => declared
  | _ => []

/-- The attributes in the start tag. -/
def attributes : Node → List Attribute
  | element _ _ attributes _ => attributes
  | _ => []

/-- The nodes inside an element. -/
def content : Node → List Node
  | element _ _ _ content => content
  | _ => []

/-- The value of the attribute with this name and no namespace. -/
def attribute? (node : Node) (localName : String) : Option String :=
  (node.attributes.find? fun item => item.name = ⟨none, localName⟩).map Attribute.value

/-- The value of an attribute, when it is there and not empty. -/
def filledAttribute? (node : Node) (localName : String) : Option String :=
  (node.attribute? localName).filter (· ≠ "")

mutual

/-- All text inside a node, at any depth. Comments and instructions have none. -/
def innerText : Node → String
  | element _ _ _ content => innerTexts content
  | text content => content
  | comment _ => ""
  | instruction .. => ""

/-- All text inside several nodes. -/
def innerTexts : List Node → String
  | [] => ""
  | node :: rest => innerText node ++ innerTexts rest

end

end Node

/-- All text of a document. -/
def Document.innerText (document : Document) : String :=
  Node.innerTexts document.nodes

/-- A node seen in its document, with the bindings in scope at its parent. -/
structure Place where
  outer : Scope
  node : Node
  deriving Repr, Inhabited

namespace Place

/-- The bindings in scope inside the node. -/
def scope (place : Place) : Scope :=
  place.outer.extend place.node.declared

/-- The places of the nodes inside an element. -/
def inside (place : Place) : List Place :=
  place.node.content.map fun node => ⟨place.scope, node⟩

/-- Whether there is an element with this name at a place. -/
def isNamed (place : Place) (localName : String) : Bool :=
  place.node.isNamed localName

/-- The places of the elements with a name inside an element. -/
def children (place : Place) (localName : String) : List Place :=
  place.inside.filter (·.isNamed localName)

/-- The place of the first element with a name inside an element. -/
def child? (place : Place) (localName : String) : Option Place :=
  place.inside.find? (·.isNamed localName)

/-- The elements named `item` inside the elements named `group` inside. -/
def grandchildren (place : Place) (group item : String) : List Place :=
  (place.children group).flatMap (·.children item)

end Place

mutual

/-- The place of a node and those of all nodes inside it, in document order. -/
def Node.places (outer : Scope) : Node → List Place
  | .element name declared attributes content =>
      ⟨outer, .element name declared attributes content⟩ ::
        Node.placesInside (outer.extend declared) content
  | node => [⟨outer, node⟩]

/-- The places of several nodes and of all nodes inside them. -/
def Node.placesInside (outer : Scope) : List Node → List Place
  | [] => []
  | node :: rest => Node.places outer node ++ Node.placesInside outer rest

end

/-- The places of all nodes of a document. -/
def Document.places (document : Document) : List Place :=
  Node.placesInside [] document.nodes

end IssueSync.Xml
