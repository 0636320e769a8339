import IssueSync.Xml.Node
import IssueSync.Xml.Piece

/-! # Reading documents

The pieces of a text are put together from left to right. The elements whose
end tag is still to come form a stack; each knows the namespace bindings in
scope inside it, so names are resolved when a start tag is met. A document is
accepted when every element is closed and there is exactly one top element.
-/

namespace IssueSync.Xml

/-- An element whose end tag is still to come. -/
structure OpenElement where
  /-- The name in the start tag, which the end tag repeats. -/
  written : WrittenName
  name : ExpandedName
  declared : Scope
  attributes : List Attribute
  /-- The bindings in scope inside the element. -/
  scope : Scope
  /-- The nodes read so far, latest first. -/
  content : List Node

/-- What has been read of a document so far. -/
structure Assembly where
  /-- The open elements, innermost first. -/
  stack : List OpenElement
  /-- The top nodes that are complete, latest first. -/
  top : List Node

namespace Assembly

/-- Nothing read yet. -/
def initial : Assembly := ⟨[], []⟩

/-- The declarations in force at the point that was reached. -/
def scope (assembly : Assembly) : Scope :=
  match assembly.stack with
  | [] => []
  | innermost :: _ => innermost.scope

/-- A node added to what was read inside the innermost open element. -/
def add (assembly : Assembly) (node : Node) : Assembly :=
  match assembly.stack with
  | [] => { assembly with top := node :: assembly.top }
  | innermost :: outer =>
      { assembly with stack := { innermost with content := node :: innermost.content } :: outer }

end Assembly

/-- A list of nodes, latest first, with character data added; it joins the text
right before it. -/
def joinText (content : String) : List Node → List Node
  | .text earlier :: rest => .text (earlier ++ content) :: rest
  | nodes => .text content :: nodes

/-- The declarations among the attributes of a start tag. A label is declared
once; the label `xml` and its namespace belong to each other, and the
namespace of declarations cannot be bound. -/
def declarations? (attributes : List WrittenAttribute) : Option Scope :=
  attributes.foldlM (fun declared item =>
    if item.name.label = "xmlns".toList then
      let label := String.ofList item.name.localName
      if item.value = declarationUri || (label = "xml") != (item.value = xmlUri) ||
          declared.binds (some label) then none
      else if item.value = xmlUri then some declared
      else some (declared ++ [⟨some label, item.value⟩])
    else if item.name.localName = "xmlns".toList then
      if item.value = xmlUri || item.value = declarationUri then none
      else some (declared ++ [⟨none, item.value⟩])
    else some declared) []

/-- Whether an attribute declares a namespace binding. -/
def WrittenAttribute.isDeclaration (item : WrittenAttribute) : Bool :=
  item.name.label = "xmlns".toList || item.name.localName = "xmlns".toList

/-- The expanded name of an element; a label must be bound. -/
def elementName? (scope : Scope) (name : WrittenName) : Option ExpandedName :=
  let localName := String.ofList name.localName
  if name.label.isEmpty then some ⟨scope.uriOf? none, localName⟩
  else if name.label = "xmlns".toList then none
  else (scope.uriOf? (some (String.ofList name.label))).map fun uri => ⟨some uri, localName⟩

/-- The expanded name of an attribute. Without a label it has no namespace. -/
def attributeName? (scope : Scope) (name : WrittenName) : Option ExpandedName :=
  let localName := String.ofList name.localName
  if name.label.isEmpty then some ⟨none, localName⟩
  else if name.label = "xml".toList then some ⟨some xmlUri, localName⟩
  else (scope.uriOf? (some (String.ofList name.label))).map fun uri => ⟨some uri, localName⟩

/-- The attributes of a start tag other than its declarations. No two of them
have the same expanded name. -/
def attributes? (scope : Scope) (written : List WrittenAttribute) : Option (List Attribute) :=
  (written.filter (!·.isDeclaration)).foldlM (fun attributes item =>
    match attributeName? scope item.name with
    | none => none
    | some name =>
        if attributes.any (·.name = name) then none
        else some (attributes ++ [⟨name, item.value⟩])) []

/-- The element that a start tag opens inside the scope `outer`. -/
def openElement? (outer : Scope) (written : WrittenName) (items : List WrittenAttribute) :
    Option OpenElement := do
  let declared ← declarations? items
  let scope := outer.extend declared
  let name ← elementName? scope written
  let attributes ← attributes? scope items
  return ⟨written, name, declared, attributes, scope, []⟩

/-- The element with what was read inside it. -/
def OpenElement.close (element : OpenElement) : Node :=
  .element element.name element.declared element.attributes element.content.reverse

namespace Assembly

/-- The assembly with character data added inside the innermost element. -/
def addText? (assembly : Assembly) (content : String) : Option Assembly :=
  match assembly.stack with
  | [] => none
  | innermost :: outer =>
      some { assembly with
        stack := { innermost with content := joinText content innermost.content } :: outer }

/-- The assembly after one more piece. Outside the top element only white
space, comments and processing instructions stand, and there is one top
element. -/
def step? (assembly : Assembly) : Piece → Option Assembly
  | .comment content => some (assembly.add (.comment content))
  | .instruction target value => some (assembly.add (.instruction target value))
  | .characters raw =>
      if assembly.stack.isEmpty then
        if raw.all isSpace then some assembly else none
      else (textOf? raw).bind assembly.addText?
  | .sectionData content => assembly.addText? content
  | .startTag written items closed =>
      if assembly.stack.isEmpty && assembly.top.any Node.isElement then none
      else (openElement? assembly.scope written items).map fun element =>
        if closed then assembly.add element.close
        else { assembly with stack := element :: assembly.stack }
  | .endTag written =>
      match assembly.stack with
      | [] => none
      | innermost :: outer =>
          if innermost.written = written then
            some (Assembly.add { assembly with stack := outer } innermost.close)
          else none

/-- The document, when every element was closed and there is one at the top. -/
def finish? (assembly : Assembly) : Option Document :=
  if assembly.stack.isEmpty && assembly.top.any Node.isElement then
    some ⟨assembly.top.reverse⟩
  else none

end Assembly

/-- The document that pieces make up, one after the other. -/
def Document.ofPieces? (pieces : List Piece) : Option Document :=
  (pieces.foldlM Assembly.step? Assembly.initial).bind Assembly.finish?

/-- The document that characters are, behind a byte order mark and a declaration. -/
def Document.ofCharacters? (characters : List Char) : Option Document := do
  let body ← afterDeclaration? (withoutMark characters)
  let pieces ← pieces? body
  Document.ofPieces? pieces

/-- The document that a text is, if it is one. Texts are assumed to keep within two limits
of the parser, which are not laid down here: more than 65535 different declarations of
namespaces or 2^32 - 1 nodes it cannot number. -/
def Document.parse? (text : String) : Option Document :=
  Document.ofCharacters? text.toList

/-- Parsing a text is parsing its characters. -/
theorem Document.parse?_ofList (characters : List Char) :
    Document.parse? (String.ofList characters) = Document.ofCharacters? characters := by
  rw [Document.parse?, String.toList_ofList]

end IssueSync.Xml
