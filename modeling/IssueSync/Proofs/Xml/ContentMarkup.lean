import IssueSync.Proofs.Xml.Escape
import IssueSync.Proofs.Xml.Unwrapping
import IssueSync.Proofs.Xml.WellNamed

/-! # The markup inside an element

What follows the name in a start tag holds no closing bracket and does not end
in a slash (`startTagRest_isTail`), so taking the tags off the markup of an
element leaves the markup of its content (`Place.contentMarkup_element`). The
markup of the whole document has no tags around it, and none are taken off
(`unwrap_nil`). Both together give the markup inside every element and inside
the document (`Document.contentMarkup_eq_join`).
-/

namespace IssueSync.Xml

/-- What may follow the name in a start tag: nothing, or something that begins
with a space, ends in a quote and holds no closing bracket. -/
def IsTail (characters : List Char) : Prop :=
  '>' ∉ characters ∧
    (characters = [] ∨ characters.head? = some ' ' ∧ characters.getLast? = some '"')

theorem isTail_nil : IsTail [] :=
  ⟨List.not_mem_nil, .inl rfl⟩

theorem IsTail.append {first second : List Char} (firstTail : IsTail first)
    (secondTail : IsTail second) : IsTail (first ++ second) := by
  refine ⟨fun member => ?_, ?_⟩
  · rcases List.mem_append.mp member with inFirst | inSecond
    · exact firstTail.1 inFirst
    · exact secondTail.1 inSecond
  · rcases firstTail.2 with rfl | ⟨head, last⟩
    · exact secondTail.2
    · rcases secondTail.2 with rfl | ⟨_, secondLast⟩
      · rw [List.append_nil]
        exact .inr ⟨head, last⟩
      · refine .inr ⟨?_, ?_⟩
        · rw [List.head?_append, head]
          rfl
        · rw [List.getLast?_append, secondLast]
          rfl

/-- Several parts of a tag make one. -/
theorem isTail_join {parts : List String} (each : ∀ part ∈ parts, IsTail part.toList) :
    IsTail (String.join parts).toList := by
  induction parts with
  | nil => exact isTail_nil
  | cons part rest ih =>
      obtain ⟨first, later⟩ := List.forall_mem_cons.mp each
      rw [String.join_cons, String.toList_append]
      exact first.append (ih later)

theorem toList_writePair (name value : String) :
    (writePair name value).toList =
      ' ' :: name.toList ++ ['=', '"'] ++ (escape .insideQuotes value).toList ++ ['"'] := by
  simp [writePair]

/-- An attribute is part of a tag: its brackets stand in quotes. -/
theorem writePair_isTail {name : String} (value : String) (noBracket : '>' ∉ name.toList) :
    IsTail (writePair name value).toList := by
  rw [toList_writePair]
  refine ⟨?_, .inr ⟨rfl, List.getLast?_concat⟩⟩
  have escaped := bracket_not_mem_escape .insideQuotes value
  simp [noBracket, escaped]

/-! ### Start tags -/

/-- Names have no brackets. -/
theorem IsName.bracket_not_mem {characters : List Char} (named : IsName characters) :
    '>' ∉ characters := by
  intro member
  have part := named.2 _ member
  revert part
  decide

/-- A qualified name is the local name, or a label, a colon and the local name. -/
theorem Scope.qualify_cases {scope : Scope} (scopeNamed : scope.WellNamed) (name : ExpandedName) :
    scope.qualify name = name.localName ∨
      ∃ label : String, IsName label.toList ∧
        scope.qualify name = label ++ ":" ++ name.localName := by
  unfold Scope.qualify
  split
  · exact .inl rfl
  · split
    · have named : IsName "xml".toList := ⟨by decide, List.all_eq_true.mp (by decide)⟩
      exact .inr ⟨"xml", named, rfl⟩
    · split
      · next label found =>
          obtain ⟨binding, first, labelled⟩ := Option.bind_eq_some_iff.mp found
          have member := List.mem_of_find?_eq_some first
          exact .inr ⟨label, scopeNamed binding member label labelled, rfl⟩
      · exact .inl rfl

/-- Written names have no brackets either. -/
theorem bracket_not_mem_qualify {scope : Scope} {name : ExpandedName}
    (scopeNamed : scope.WellNamed) (named : IsName name.localName.toList) :
    '>' ∉ (scope.qualify name).toList := by
  have localClear := named.bracket_not_mem
  rcases Scope.qualify_cases scopeNamed name with same | ⟨label, labelNamed, same⟩
  · rwa [same]
  · have labelClear := labelNamed.bracket_not_mem
    rw [same]
    simp [labelClear, localClear]

/-- A declaration is part of a tag. -/
theorem binding_isTail {scope : Scope} (scopeNamed : scope.WellNamed) {binding : Binding}
    (member : binding ∈ scope) : IsTail binding.markup.toList := by
  rw [Binding.markup]
  split
  · next label labelled =>
      have labelNamed := scopeNamed binding member label labelled
      refine writePair_isTail _ ?_
      simpa using labelNamed.bracket_not_mem
  · exact writePair_isTail _ (by decide)

/-- The declarations and attributes of a start tag. -/
theorem startTagRest_isTail (outer : Scope) {scope : Scope} {attributes : List Attribute}
    (scopeNamed : scope.WellNamed) (attributesNamed : AttributesNamed attributes) :
    IsTail (startTagRest outer scope attributes).toList := by
  rw [startTagRest, String.toList_append]
  refine (isTail_join ?_).append (isTail_join ?_)
  · intro part listed
    obtain ⟨binding, introduced, rfl⟩ := List.mem_map.mp listed
    exact binding_isTail scopeNamed (List.mem_filter.mp introduced).1
  · intro part listed
    obtain ⟨item, member, rfl⟩ := List.mem_map.mp listed
    exact writePair_isTail _ (bracket_not_mem_qualify scopeNamed (attributesNamed item member))

/-! ### Taking the tags off -/

/-- The quote at the end is no slash. -/
theorem IsTail.fitsStartTag {tail : List Char} (isTail : IsTail tail) : FitsStartTag tail := by
  obtain ⟨absent, rfl | ⟨head, last⟩⟩ := isTail
  · exact ⟨.inl rfl, absent, by decide⟩
  · refine ⟨.inr head, absent, ?_⟩
    rw [last]
    decide

/-- **The markup inside an element** is that of the nodes inside it. -/
theorem Place.contentMarkup_element {outer : Scope} {name : ExpandedName} {declared : Scope}
    {attributes : List Attribute} {content : List Node} (outerNamed : outer.WellNamed)
    (declaredNamed : declared.WellNamed) (attributesNamed : AttributesNamed attributes) :
    Place.contentMarkup ⟨outer, .element name declared attributes content⟩ =
      Node.markupAll (outer.extend declared) content := by
  have tail := (startTagRest_isTail outer (outerNamed.extend declaredNamed)
    attributesNamed).fitsStartTag
  rw [Place.contentMarkup, unwrapMarkup, ← String.toList_inj, String.toList_ofList, Place.markup,
    Place.tag, Place.scope]
  cases content with
  | nil =>
      simp only [Node.markup, Node.declared, String.toList_append, Node.markupAll]
      have closed := unwrap_closed ((outer.extend declared).qualify name).toList tail
      simpa using closed
  | cons first rest =>
      simp only [Node.markup, Node.declared, String.toList_append]
      have whole := unwrap_element ((outer.extend declared).qualify name).toList tail
        (Node.markupAll (outer.extend declared) (first :: rest)).toList
      simpa [Node.markupAll] using whole

/-- The markup inside an element that holds one text and nothing else. -/
theorem Place.contentMarkup_of_text {place : Place} (named : place.WellNamed) {characters : String}
    (single : place.node.content = [.text characters]) :
    place.contentMarkup = escape .betweenTags characters := by
  obtain ⟨outer, node⟩ := place
  obtain ⟨outerNamed, nodeNamed⟩ := named
  cases nodeNamed with
  | element _ declaredNamed attributesNamed _ =>
      rw [contentMarkup_element outerNamed declaredNamed attributesNamed]
      dsimp only [Node.content] at single
      rw [single, Node.markupAll, Node.markupAll, Node.markup, String.append_empty]
  | text => cases single
  | comment => cases single
  | instruction => cases single

/-! ### Markup without tags around it -/

/-- A written name begins as names do. -/
theorem startsName_qualify {scope : Scope} {name : ExpandedName} (scopeNamed : scope.WellNamed)
    (named : IsName name.localName.toList) :
    startsName (scope.qualify name).toList = true := by
  rcases Scope.qualify_cases scopeNamed name with same | ⟨label, labelNamed, same⟩
  · rw [same]
    exact named.1
  · have starts := labelNamed.1
    rw [same, String.toList_append, String.toList_append]
    cases letters : label.toList with
    | nil =>
        rw [letters] at starts
        cases starts
    | cons first more => rwa [letters] at starts

/-- A text that does not begin with a tag without a name, nor with the start of
one. -/
def NoBareTag (characters : List Char) : Prop :=
  characters ≠ ['<'] ∧ ∀ next rest, characters = '<' :: next :: rest → next ∉ ['>', '/', ' ']

/-- A tag with a name has no bare bracket. -/
theorem noBareTag_of_next {next : Char} (noBare : next ∉ ['>', '/', ' ']) (rest : List Char) :
    NoBareTag ('<' :: next :: rest) := by
  refine ⟨by simp, ?_⟩
  rintro other tail same
  cases same
  exact noBare

/-- A text without brackets has no tags at all. -/
theorem noBareTag_of_no_bracket {characters : List Char} (absent : '<' ∉ characters) :
    NoBareTag characters := by
  constructor
  · rintro rfl
    exact absent List.mem_cons_self
  · rintro next rest rfl
    exact absurd List.mem_cons_self absent

/-- Bare tags do not come about where two texts meet that have none. -/
theorem NoBareTag.append {first second : List Char} (firstClear : NoBareTag first)
    (secondClear : NoBareTag second) : NoBareTag (first ++ second) := by
  obtain ⟨whole, next⟩ := firstClear
  -- Two characters of the first text decide; a shorter one is empty or begins with no bracket.
  match first with
  | [] => exact secondClear
  | [only] =>
      have different : only ≠ '<' := fun same => whole (same ▸ rfl)
      constructor
      · intro same
        exact different (List.cons.inj same).1
      · intro other rest same
        exact absurd (List.cons.inj same).1 different
  | head :: other :: more =>
      constructor
      · intro same
        cases same
      · intro found rest same
        obtain ⟨headIs, tailIs⟩ := List.cons.inj same
        obtain ⟨otherIs, -⟩ := List.cons.inj tailIs
        exact next found more (by rw [headIs, otherIs])

/-- The markup of an element begins with its tag. -/
theorem Node.markup_element (outer : Scope) (name : ExpandedName) (declared : Scope)
    (attributes : List Attribute) (content : List Node) :
    ∃ rest, (Node.markup outer (.element name declared attributes content)).toList =
      '<' :: (((outer.extend declared).qualify name).toList ++ rest) := by
  cases content with
  | nil => exact ⟨_, by simp only [Node.markup, String.toList_append, List.append_assoc]; rfl⟩
  | cons first others =>
      exact ⟨_, by simp only [Node.markup, String.toList_append, List.append_assoc]; rfl⟩

/-- An instruction begins with a question mark behind its bracket. -/
theorem Node.markup_instruction (outer : Scope) (target : String) (value : Option String) :
    ∃ rest, (Node.markup outer (.instruction target value)).toList = '<' :: '?' :: rest := by
  cases value with
  | none => exact ⟨_, by simp [Node.markup]; rfl⟩
  | some value => exact ⟨_, by simp [Node.markup]; rfl⟩

/-- Nothing with names is written with a bare tag. -/
theorem Node.noBareTag_markup {outer : Scope} {node : Node} (outerNamed : outer.WellNamed)
    (named : node.WellNamed) : NoBareTag (node.markup outer).toList := by
  cases named with
  | @element name declared attributes content named declaredNamed attributesNamed inside =>
      have starts := startsName_qualify (outerNamed.extend declaredNamed) named
      obtain ⟨rest, same⟩ := Node.markup_element outer name declared attributes content
      rw [same]
      cases letters : ((outer.extend declared).qualify name).toList with
      | nil =>
          rw [letters] at starts
          cases starts
      | cons first more =>
          rw [letters] at starts
          have nameStart : isNameStart first = true := starts
          have refused : ['>', '/', ' '].all (!isNameStart ·) = true := by decide
          refine noBareTag_of_next (fun bare => ?_) _
          have notStart := List.all_eq_true.mp refused first bare
          rw [nameStart] at notStart
          cases notStart
  | text content =>
      refine noBareTag_of_no_bracket fun member => ?_
      exact (mem_escape member).1 rfl
  | comment content =>
      have same : (Node.markup outer (.comment content)).toList =
          '<' :: '!' :: (['-', '-'] ++ content.toList ++ ['-', '-', '>']) := by
        simp [Node.markup]
      rw [same]
      exact noBareTag_of_next (by decide) _
  | instruction target value =>
      obtain ⟨rest, same⟩ := Node.markup_instruction outer target value
      rw [same]
      exact noBareTag_of_next (by decide) _

/-- Nor are several nodes. -/
theorem Node.noBareTag_markupAll {outer : Scope} (outerNamed : outer.WellNamed)
    {nodes : List Node} (named : ∀ node ∈ nodes, node.WellNamed) :
    NoBareTag (Node.markupAll outer nodes).toList := by
  induction nodes with
  | nil => exact noBareTag_of_no_bracket List.not_mem_nil
  | cons node rest ih =>
      obtain ⟨first, later⟩ := List.forall_mem_cons.mp named
      rw [Node.markupAll, String.toList_append]
      exact (Node.noBareTag_markup outerNamed first).append (ih later)

/-- Without a tag to take away markup stays, since it has no bare ones. -/
theorem unwrap_nil {markup : List Char} (clear : NoBareTag markup) : unwrap [] markup = markup := by
  apply unwrap_of_not_startsTag
  intro starts
  obtain ⟨next, ends, rest, whole⟩ := starts
  exact clear.2 next rest whole.symm ends

/-- Nodes are written one after the other. -/
theorem Node.markupAll_eq_join (outer : Scope) (nodes : List Node) :
    Node.markupAll outer nodes = String.join (nodes.map (Node.markup outer)) := by
  induction nodes with
  | nil => rfl
  | cons node rest ih => rw [Node.markupAll, ih, List.map_cons, String.join_cons]

/-- **Inner markup.** In a document that is accepted, the markup inside an
element is that of the nodes inside it, one after the other, and the markup
inside the document is its whole markup. -/
theorem Document.contentMarkup_eq_join {text : String} {document : Document}
    (parsed : Document.parse? text = some document) :
    (∀ place ∈ document.places, place.node.isElement = true →
        place.contentMarkup = String.join (place.inside.map Place.markup)) ∧
      document.contentMarkup = document.markup := by
  constructor
  · intro place member isElement
    obtain ⟨outerNamed, named⟩ := Document.wellNamed_of_mem_places parsed member
    obtain ⟨outer, node⟩ := place
    cases named with
    | @element name declared attributes content named declaredNamed attributesNamed inside =>
        have markups : (Place.inside ⟨outer, .element name declared attributes content⟩).map
            Place.markup = content.map (Node.markup (outer.extend declared)) := by
          rw [Place.inside, List.map_map]
          rfl
        rw [Place.contentMarkup_element outerNamed declaredNamed attributesNamed,
          Node.markupAll_eq_join, markups]
    | text => cases isElement
    | comment => cases isElement
    | instruction => cases isElement
  · have clear := Node.noBareTag_markupAll Scope.wellNamed_nil (Document.parse?_wellNamed parsed)
    have whole : unwrap [] document.markup.toList = document.markup.toList := unwrap_nil clear
    rw [Document.contentMarkup, unwrapMarkup, String.toList_empty, whole, String.ofList_toList]

/-- An element with brackets and slashes in its attributes, its declarations and
its content, and with an element of its own name inside. -/
def bracketedText : String :=
  "<p:t xmlns:p='u>/' a='x>/'><!-- > --><p:t>1&gt;0<q/></p:t><?q > ?></p:t>"

/-- The first element of a document, as markup, with the markup of the nodes
inside it. -/
def Document.firstElement? (document : Document) : Option (String × List String) :=
  (document.places.find? (·.node.isElement)).map fun place =>
    (place.markup, place.inside.map Place.markup)

set_option maxRecDepth 8000 in
/-- Only the tags of the outer element are taken off. -/
theorem contentMarkup_bracketedText :
    ∃ document, Document.parse? bracketedText = some document ∧
      document.contentMarkup = document.markup ∧
      ∃ place ∈ document.places, place.node.isElement = true ∧
        place.markup = "<p:t xmlns:p=\"u&gt;/\" a=\"x&gt;/\">" ++
          "<!-- > --><p:t>1&gt;0<q/></p:t><?q > ?></p:t>" ∧
        place.contentMarkup = "<!-- > --><p:t>1&gt;0<q/></p:t><?q > ?>" := by
  have read : (Document.parse? bracketedText).bind Document.firstElement? =
      some ("<p:t xmlns:p=\"u&gt;/\" a=\"x&gt;/\"><!-- > --><p:t>1&gt;0<q/></p:t><?q > ?></p:t>",
        ["<!-- > -->", "<p:t>1&gt;0<q/></p:t>", "<?q > ?>"]) :=
    (congrArg (Option.bind · Document.firstElement?) (Document.parse?_ofList _)).trans
      (by decide +kernel)
  obtain ⟨document, parsed, first⟩ := Option.bind_eq_some_iff.mp read
  obtain ⟨place, found, same⟩ := Option.map_eq_some_iff.mp first
  obtain ⟨markup, inside⟩ := Prod.mk.inj same
  have member := List.mem_of_find?_eq_some found
  have isElement := List.find?_some found
  obtain ⟨elements, whole⟩ := Document.contentMarkup_eq_join parsed
  refine ⟨document, parsed, whole, place, member, isElement, markup, ?_⟩
  rw [elements place member isElement, inside]
  rfl

end IssueSync.Xml
