import IssueSync.Text.Search
import IssueSync.Xml.Node

/-! # Writing markup

A node is written with the labels its scope gives to the namespaces, the
declarations that its parent's scope does not hold, and its attributes in
order. The inner markup of an element is what is left of its written form when
the tags around it are taken off.
-/

namespace IssueSync.Xml

/-- Where a text stands: between tags, or between the quotes of a value. -/
inductive Position where
  | betweenTags
  | insideQuotes
  deriving DecidableEq, Repr

/-- A character as it is written. A quote only matters inside quotes. -/
def escapeCharacter (position : Position) : Char → List Char
  | '&' => ['&', 'a', 'm', 'p', ';']
  | '<' => ['&', 'l', 't', ';']
  | '>' => ['&', 'g', 't', ';']
  | '"' =>
      match position with
      | .betweenTags => ['"']
      | .insideQuotes => ['&', 'q', 'u', 'o', 't', ';']
  | character => [character]

/-- A text as it is written at a position. -/
def escape (position : Position) (text : String) : String :=
  String.ofList (text.toList.flatMap (escapeCharacter position))

/-- A name with a value in quotes, as both attributes and declarations are written. -/
def writePair (name value : String) : String :=
  " " ++ name ++ "=\"" ++ escape .insideQuotes value ++ "\""

/-- A declaration as it is written in a tag. -/
def Binding.markup (binding : Binding) : String :=
  match binding.label with
  | some label => writePair ("xmlns:" ++ label) binding.uri
  | none => writePair "xmlns" binding.uri

/-- The bindings of `scope` that have to be declared inside `outer`. -/
def Scope.introduced (outer scope : Scope) : Scope :=
  scope.filter fun binding => binding.uri ≠ xmlUri && !outer.contains binding

/-- The declarations and attributes of an element. -/
def startTagRest (outer scope : Scope) (attributes : List Attribute) : String :=
  String.join ((outer.introduced scope).map Binding.markup) ++
    String.join (attributes.map fun item =>
      writePair (scope.qualify item.name) item.value)

mutual

/-- A node as markup, inside the scope `outer`. -/
def Node.markup (outer : Scope) : Node → String
  | .element name declared attributes content =>
      let scope := outer.extend declared
      let tag := scope.qualify name
      let start := "<" ++ tag ++ startTagRest outer scope attributes
      match content with
      | [] => start ++ "/>"
      | first :: rest =>
          start ++ ">" ++ (Node.markup scope first ++ Node.markupAll scope rest) ++
            "</" ++ tag ++ ">"
  | .text content => escape .betweenTags content
  | .comment content => "<!--" ++ content ++ "-->"
  | .instruction target none => "<?" ++ target ++ "?>"
  | .instruction target (some value) => "<?" ++ target ++ " " ++ value ++ "?>"

/-- Nodes written one after the other. -/
def Node.markupAll (outer : Scope) : List Node → String
  | [] => ""
  | node :: rest => Node.markup outer node ++ Node.markupAll outer rest

end

/-- Nodes are written on their own: none depends on those before it. -/
theorem Node.markupAll_append (outer : Scope) (first second : List Node) :
    Node.markupAll outer (first ++ second) =
      Node.markupAll outer first ++ Node.markupAll outer second := by
  induction first with
  | nil => exact (String.empty_append ..).symm
  | cons node rest ih =>
      rw [List.cons_append, Node.markupAll, Node.markupAll, ih, String.append_assoc]

/-- What is written of an element depends on its names and declarations as they are
written, and on the markup of its content. -/
theorem Node.markup_congr {outer other : Scope} {name otherName : ExpandedName}
    {declared otherDeclared : Scope} {attributes otherAttributes : List Attribute}
    {content otherContent : List Node}
    (tag : (outer.extend declared).qualify name = (other.extend otherDeclared).qualify otherName)
    (start : startTagRest outer (outer.extend declared) attributes =
      startTagRest other (other.extend otherDeclared) otherAttributes)
    (empty : content.isEmpty = otherContent.isEmpty)
    (inside : Node.markupAll (outer.extend declared) content =
      Node.markupAll (other.extend otherDeclared) otherContent) :
    Node.markup outer (.element name declared attributes content) =
      Node.markup other (.element otherName otherDeclared otherAttributes otherContent) := by
  cases content with
  | nil =>
      obtain rfl : otherContent = [] := List.isEmpty_iff.mp empty.symm
      simp only [Node.markup, tag, start]
  | cons first rest =>
      cases otherContent with
      | nil => cases empty
      | cons otherFirst otherRest =>
          rw [Node.markupAll, Node.markupAll] at inside
          simp only [Node.markup, tag, start, inside]

/-- The document as it is written. -/
def Document.markup (document : Document) : String :=
  Node.markupAll [] document.nodes

/-- The node at a place as it is written there. -/
def Place.markup (place : Place) : String :=
  place.node.markup place.outer

/-- The qualified name of an element; empty for other nodes. -/
def Place.tag (place : Place) : String :=
  match place.node with
  | .element name .. => place.scope.qualify name
  | _ => ""

/-- Markup without the tags of the element `tag` around it. An empty element
gives the empty text, and markup that does not begin with the start tag stays
as it is. -/
def unwrap (tag markup : List Char) : List Char :=
  match Text.afterStart? ('<' :: tag) markup with
  | none => markup
  | some afterName =>
      match afterName with
      | '>' :: _ | '/' :: _ | ' ' :: _ =>
          match Text.splitFirst? ['>'] afterName with
          | none => markup
          | some (beforeEnd, inner) =>
              if beforeEnd.getLast? = some '/' then []
              else Text.withoutEnd (['<', '/'] ++ tag ++ ['>']) inner
      | _ => markup

/-- Markup without the start tag and the end tag around it. -/
def unwrapMarkup (tag markup : String) : String :=
  String.ofList (unwrap tag.toList markup.toList)

/-- What is written between the tags of the element at a place. -/
def Place.contentMarkup (place : Place) : String :=
  unwrapMarkup place.tag place.markup

/-- The markup inside a document, which has no tags of its own. -/
def Document.contentMarkup (document : Document) : String :=
  unwrapMarkup "" document.markup

end IssueSync.Xml
