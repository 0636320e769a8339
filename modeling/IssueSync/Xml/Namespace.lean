/-! # Namespace bindings in scope

An element binds namespace labels for itself and everything inside it. The
bindings in scope at an element are a list: its own ones first, then those of
its parent whose label is not yet there. The first binding that fits counts.
-/

namespace IssueSync.Xml

/-- What the reserved namespaces begin with. -/
def reservedStart : String := "http://www.w3.org/"

/-- The namespace of the label `xml`, which is bound everywhere. -/
def xmlUri : String := reservedStart ++ "XML/1998/namespace"

/-- The namespace of declarations themselves, which nothing may be bound to. -/
def declarationUri : String := reservedStart ++ "2000/xmlns/"

/-- A namespace binding; the one without a label holds for unlabelled element
names. -/
structure Binding where
  label : Option String
  uri : String
  deriving DecidableEq, Repr

/-- The bindings in scope at a place of a document. -/
abbrev Scope := List Binding

/-- A name together with the namespace that its label stands for. -/
structure ExpandedName where
  namespaceUri : Option String
  localName : String
  deriving DecidableEq, Repr

namespace Scope

/-- Whether a binding in scope has this label. -/
def binds (scope : Scope) (label : Option String) : Bool :=
  scope.any fun binding => binding.label = label

/-- The namespace that `label` stands for. -/
def uriOf? (scope : Scope) (label : Option String) : Option String :=
  (scope.find? fun binding => binding.label = label).map Binding.uri

/-- The label of the first binding to `uri`, when that binding has one. -/
def labelOf? (scope : Scope) (uri : String) : Option String :=
  (scope.find? fun binding => binding.uri = uri).bind Binding.label

/-- The scope with `binding` added at the end unless its label is bound. -/
def addMissing (scope : Scope) (binding : Binding) : Scope :=
  if scope.binds binding.label then scope else scope ++ [binding]

/-- The scope inside an element that makes the declarations `own`, within the
scope `outer` of its parent. -/
def extend (outer own : Scope) : Scope :=
  if own.isEmpty then outer else outer.foldl addMissing own

/-- The qualified form of an expanded name: the label is looked up again from
the namespace, and left out when the first binding to it has none. -/
def qualify (scope : Scope) (name : ExpandedName) : String :=
  match name.namespaceUri with
  | none => name.localName
  | some uri =>
      if uri = xmlUri then "xml:" ++ name.localName
      else
        match scope.labelOf? uri with
        | some label => label ++ ":" ++ name.localName
        | none => name.localName

end Scope

end IssueSync.Xml
