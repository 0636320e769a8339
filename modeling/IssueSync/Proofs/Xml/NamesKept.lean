import IssueSync.Proofs.Xml.DocumentReread

/-! # Names in markup that is read again

The outline of a document is its shape with the names of its elements and
attributes. The markup of a document has the same outline exactly when every
tag keeps its names, no text is empty and no processing instruction is misread
(`Document.namesKept_iff`).
-/

namespace IssueSync.Xml

/-- The shape of a node and the names in it. -/
inductive Outline where
  | element (name : ExpandedName) (attributes : List ExpandedName) (content : List Outline)
  | text
  | comment
  | instruction

mutual

/-- A node with names in place of its data. -/
def Node.outline : Node → Outline
  | .element name _ attributes content =>
      .element name (attributes.map Attribute.name) (Node.outlines content)
  | .text _ => .text
  | .comment _ => .comment
  | .instruction .. => .instruction

/-- The outlines of several nodes. -/
def Node.outlines : List Node → List Outline
  | [] => []
  | node :: rest => Node.outline node :: Node.outlines rest

end

/-- The outline of a document. -/
def Document.outline (document : Document) : List Outline :=
  Node.outlines document.nodes

/-- No two attributes or declarations of a start tag have the same name. -/
def Piece.NamesOnce : Piece → Prop
  | .startTag _ items _ => (items.map WrittenAttribute.name).Nodup
  | _ => True

/-- The markup of the document is a document again: no tag has a name twice, and
its elements and attributes have the names they had. -/
def Document.NamesKept (document : Document) : Prop :=
  (∃ again, Document.parse? document.markup = some again ∧ again.outline = document.outline) ∧
    ∃ pieces, pieces? document.markup.toList = some pieces ∧ ∀ piece ∈ pieces, piece.NamesOnce

/-- What is written of the place is read with the same names. -/
def Place.KeepsNames (place : Place) : Prop :=
  match place.node with
  | .element name _ attributes _ => place.scope.KeepsTag name attributes
  | .text content => content ≠ ""
  | .comment _ => True
  | .instruction target value => ¬ IsMisread target value

/-- Each node has one outline. -/
theorem Node.length_outlines (nodes : List Node) : (Node.outlines nodes).length = nodes.length := by
  induction nodes with
  | nil => rfl
  | cons node rest ih => rw [Node.outlines, List.length_cons, List.length_cons, ih]

/-! ### Nodes -/

/-- No more nodes are read back than there were. -/
theorem Node.length_rereadInside? {outer read : Scope} {nodes again : List Node}
    (found : Node.rereadInside? outer read nodes = some again) : again.length ≤ nodes.length := by
  induction nodes generalizing again with
  | nil =>
      cases found
      exact Nat.le_refl 0
  | cons node rest ih =>
      rw [Node.rereadInside?] at found
      obtain ⟨first, head, tail⟩ := Option.bind_eq_some_iff.mp found
      obtain ⟨more, restFound, rfl⟩ := Option.map_eq_some_iff.mp tail
      have restLength := ih restFound
      rcases Node.reread?_single head with ⟨rfl, -⟩ | ⟨single, rfl, -, -⟩
      · exact Nat.le_succ_of_le restLength
      · exact Nat.succ_le_succ restLength

/-- The node comes back with the outline it had. -/
def Node.OutlineKept (outer read : Scope) (node : Node) : Prop :=
  ∃ again, node.reread? outer read = some [again] ∧ again.outline = node.outline

/-- Nodes come back with the outlines they had when each of them does. -/
theorem outlines_kept_iff {outer read : Scope} {nodes : List Node} :
    (∃ again, Node.rereadInside? outer read nodes = some again ∧
        Node.outlines again = Node.outlines nodes) ↔
      ∀ node ∈ nodes, node.OutlineKept outer read := by
  induction nodes with
  | nil =>
      constructor
      · exact fun _ => List.forall_mem_nil _
      · exact fun _ => ⟨[], rfl, rfl⟩
  | cons node rest ih =>
      rw [List.forall_mem_cons, ← ih, Node.rereadInside?]
      constructor
      · rintro ⟨again, found, same⟩
        obtain ⟨first, head, tail⟩ := Option.bind_eq_some_iff.mp found
        obtain ⟨more, restFound, rfl⟩ := Option.map_eq_some_iff.mp tail
        rcases Node.reread?_single head with ⟨rfl, -⟩ | ⟨single, rfl, -, -⟩
        · have lengths := congrArg List.length same
          have restLength := Node.length_rereadInside? restFound
          rw [Node.length_outlines, Node.length_outlines, List.length_append, List.length_nil,
            List.length_cons] at lengths
          omega
        · rw [List.singleton_append, Node.outlines, Node.outlines] at same
          obtain ⟨headSame, restSame⟩ := List.cons.inj same
          exact ⟨⟨single, head, headSame⟩, more, restFound, restSame⟩
      · rintro ⟨⟨single, head, headSame⟩, more, restFound, restSame⟩
        refine ⟨single :: more, ?_, ?_⟩
        · rw [head, restFound]
          rfl
        · rw [Node.outlines, Node.outlines, headSame, restSame]

/-- What holds of all places holds of those of each node. -/
theorem forall_mem_placesInside {outer : Scope} {nodes : List Node} {P : Place → Prop} :
    (∀ place ∈ Node.placesInside outer nodes, P place) ↔
      ∀ node ∈ nodes, ∀ place ∈ node.places outer, P place := by
  induction nodes with
  | nil => simp [Node.placesInside]
  | cons node rest ih => rw [Node.placesInside, List.forall_mem_append, List.forall_mem_cons, ih]

/-- Several nodes keep their outlines when their places keep their names. -/
theorem outlines_kept_iff_places {outer read : Scope} {nodes : List Node}
    (each : ∀ node ∈ nodes, node.OutlineKept outer read ↔
      ∀ place ∈ node.places outer, place.KeepsNames) :
    (∃ again, Node.rereadInside? outer read nodes = some again ∧
        Node.outlines again = Node.outlines nodes) ↔
      ∀ place ∈ Node.placesInside outer nodes, place.KeepsNames := by
  rw [outlines_kept_iff, forall_mem_placesInside]
  exact forall_congr' fun node => forall_congr' fun listed => each node listed

/-- A node comes back with the outline it had when all places in it keep their
names. -/
theorem Node.Accepted.outlineKept_iff {outer read : Scope} {node : Node}
    (accepted : node.Accepted outer) (outerSound : outer.Sound) (outerDistinct : outer.Distinct)
    (same : outer.ReadAs read)
    (once : ∀ place ∈ node.places outer, place.node.declared.UnlabelledOnce) :
    node.OutlineKept outer read ↔ ∀ place ∈ node.places outer, place.KeepsNames := by
  induction accepted generalizing read with
  | @element outer name declared attributes content sound labelledOnce hosts inside apart ih =>
      rw [Node.places, List.forall_mem_cons] at once ⊢
      rw [forall_mem_placesInside] at once
      obtain ⟨unlabelledOnce, onceInside⟩ := once
      have reopened : outer.Reopened declared read :=
        ⟨outerSound, sound, outerDistinct,
          Scope.distinct_of_once labelledOnce unlabelledOnce, same⟩
      have insideKept := outlines_kept_iff_places fun node listed =>
        ih node listed reopened.sound reopened.distinct reopened.readAs (onceInside node listed)
      rw [← insideKept]
      constructor
      · rintro ⟨again, found, outlineSame⟩
        rw [Node.reread?] at found
        obtain ⟨element, opened, found⟩ := Option.bind_eq_some_iff.mp found
        obtain ⟨nodes, insideFound, whole⟩ := Option.map_eq_some_iff.mp found
        cases whole
        rw [Node.outline, Node.outline] at outlineSame
        obtain ⟨nameSame, attributesSame, contentSame⟩ := Outline.element.inj outlineSame
        have keeps := reopened.keepsTag hosts opened nameSame attributesSame
        rw [reopened.openElement?_eq hosts keeps] at opened
        cases opened
        exact ⟨keeps, nodes, insideFound, contentSame⟩
      · rintro ⟨keeps, nodes, insideFound, contentSame⟩
        refine ⟨.element name (outer.redeclared declared) (attributes.map Attribute.again) nodes,
          ?_, ?_⟩
        · rw [Node.reread?, reopened.openElement?_eq hosts keeps, Option.bind_some, insideFound]
          rfl
        · rw [Node.outline, Node.outline, contentSame, List.map_map]
          rfl
  | @text outer content characters =>
      rw [Node.places.eq_def, List.forall_mem_singleton, Node.OutlineKept, Node.reread?]
      change _ ↔ content ≠ ""
      split
      · next blank => simp [blank]
      · next filled => simp [filled, Node.outline]
  | @comment outer content sound =>
      rw [Node.places.eq_def, List.forall_mem_singleton]
      exact ⟨fun _ => trivial, fun _ => ⟨_, rfl, rfl⟩⟩
  | @instruction outer target value targetSound valueSound =>
      rw [Node.places.eq_def, List.forall_mem_singleton, Node.OutlineKept, Node.reread?]
      change _ ↔ ¬ IsMisread target value
      split
      · next misread => simp [misread]
      · next other => simp [other, Node.outline]

/-! ### Tags without repeated names -/

/-- Declarations are written with different names when their labels differ. -/
theorem Binding.name_written_inj {first second : Binding}
    (same : first.written.name = second.written.name) : first.label = second.label := by
  obtain ⟨firstLabel, firstUri⟩ := first
  obtain ⟨secondLabel, secondUri⟩ := second
  cases firstLabel with
  | none =>
      cases secondLabel with
      | none => rfl
      | some label => simp [Binding.written] at same
  | some firstLabel =>
      cases secondLabel with
      | none => simp [Binding.written] at same
      | some secondLabel => simpa [Binding.written, String.toList_inj] using same

/-- A tag that keeps its names has none of them twice. -/
theorem Scope.KeepsTag.nodup_startItems {outer scope : Scope} {name : ExpandedName}
    {attributes : List Attribute} (keeps : scope.KeepsTag name attributes) (sound : scope.Sound)
    (distinct : scope.Distinct) (hosts : scope.Hosts name attributes) :
    ((startItems outer scope attributes).map WrittenAttribute.name).Nodup := by
  have kept : ∀ item ∈ attributes, (item.written scope).isDeclaration = false ∧
      attributeName? scope.again (scope.writtenName item.name) = some item.name :=
    fun item member => (attributeName?_writtenName sound distinct (fun label =>
      Scope.uriOf?_again scope label) (hosts.sound item member)).mpr (keeps.attributes item member)
  rw [startItems, List.map_append, List.map_map, List.map_map, List.nodup_append]
  refine ⟨?_, ?_, ?_⟩
  · have labels := distinct.introduced outer
    rw [Scope.Distinct, List.Nodup, List.pairwise_map] at labels
    rw [List.Nodup, List.pairwise_map]
    exact labels.imp fun different same => different (Binding.name_written_inj same)
  · have names := hosts.distinct
    rw [List.Nodup, List.pairwise_map] at names ⊢
    refine names.imp_of_mem fun first second different same => ?_
    have firstRead := (kept _ first).2
    have secondRead := (kept _ second).2
    change scope.writtenName _ = scope.writtenName _ at same
    rw [same, secondRead] at firstRead
    exact different (Option.some.inj firstRead).symm
  · intro declared inDeclared named inNamed same
    obtain ⟨binding, -, rfl⟩ := List.mem_map.mp inDeclared
    obtain ⟨item, listed, rfl⟩ := List.mem_map.mp inNamed
    have declares := binding.isDeclaration_written
    have other := (kept item listed).1
    rw [WrittenAttribute.isDeclaration] at declares other
    change binding.written.name = (item.written scope).name at same
    rw [same, other] at declares
    cases declares

/-- A piece belongs to one of the nodes. -/
theorem exists_of_mem_piecesInside? {outer : Scope} {nodes : List Node} {pieces : List Piece}
    {piece : Piece} (cut : Node.piecesInside? outer nodes = some pieces) (member : piece ∈ pieces) :
    ∃ node ∈ nodes, ∃ own, node.pieces? outer = some own ∧ piece ∈ own := by
  induction nodes generalizing pieces with
  | nil =>
      cases cut
      cases member
  | cons node rest ih =>
      rw [Node.piecesInside?] at cut
      obtain ⟨first, head, tail⟩ := Option.bind_eq_some_iff.mp cut
      obtain ⟨more, restCut, rfl⟩ := Option.map_eq_some_iff.mp tail
      rcases List.mem_append.mp member with inFirst | inMore
      · exact ⟨node, List.mem_cons_self, first, head, inFirst⟩
      · obtain ⟨other, listed, own⟩ := ih restCut inMore
        exact ⟨other, List.mem_cons_of_mem _ listed, own⟩

/-- The tags of nodes that keep their names have none of them twice. -/
theorem Node.Accepted.namesOnce {outer : Scope} {node : Node} {pieces : List Piece}
    (accepted : node.Accepted outer) (outerSound : outer.Sound) (outerDistinct : outer.Distinct)
    (once : ∀ place ∈ node.places outer, place.node.declared.UnlabelledOnce)
    (keeps : ∀ place ∈ node.places outer, place.KeepsNames)
    (cut : node.pieces? outer = some pieces) : ∀ piece ∈ pieces, piece.NamesOnce := by
  induction accepted generalizing pieces with
  | @element outer name declared attributes content sound labelledOnce hosts inside apart ih =>
      rw [Node.places, List.forall_mem_cons, forall_mem_placesInside] at once keeps
      obtain ⟨unlabelledOnce, onceInside⟩ := once
      obtain ⟨keepsTag, keepsInside⟩ := keeps
      have scopeSound := outerSound.extend sound
      have scopeDistinct :=
        outerDistinct.extend (Scope.distinct_of_once labelledOnce unlabelledOnce)
      have start : ∀ closed, Piece.NamesOnce (.startTag ((outer.extend declared).writtenName name)
          ((startItems outer (outer.extend declared) attributes).map WrittenAttribute.again)
          closed) := by
        intro closed
        rw [Piece.NamesOnce, List.map_map]
        exact Scope.KeepsTag.nodup_startItems keepsTag scopeSound scopeDistinct hosts
      rw [Node.pieces?] at cut
      split at cut
      · cases cut
        exact List.forall_mem_singleton.mpr (start true)
      · obtain ⟨insidePieces, insideCut, rfl⟩ := Option.map_eq_some_iff.mp cut
        refine List.forall_mem_cons.mpr ⟨start false, List.forall_mem_append.mpr
          ⟨fun piece member => ?_, List.forall_mem_singleton.mpr trivial⟩⟩
        obtain ⟨node, listed, own, ownCut, inOwn⟩ := exists_of_mem_piecesInside? insideCut member
        exact ih node listed scopeSound scopeDistinct (onceInside node listed)
          (keepsInside node listed) ownCut piece inOwn
  | text characters =>
      rw [Node.pieces?] at cut
      cases cut
      split
      · exact List.forall_mem_nil _
      · exact List.forall_mem_singleton.mpr trivial
  | comment sound =>
      cases cut
      exact List.forall_mem_singleton.mpr trivial
  | instruction targetSound valueSound =>
      rw [Node.pieces?] at cut
      split at cut
      · cases cut
      · cases cut
        exact List.forall_mem_singleton.mpr trivial

/-! ### Documents -/

instance (scope : Scope) (name : ExpandedName) : Decidable (scope.KeepsElement name) :=
  inferInstanceAs (Decidable (∀ uri ∈ name.namespaceUri,
    scope.labelOf? uri ≠ some "xmlns" ∧ SpacesOnly uri))

instance (scope : Scope) (name : ExpandedName) : Decidable (scope.KeepsAttribute name) :=
  inferInstanceAs (Decidable (∀ uri ∈ name.namespaceUri, uri = xmlUri ∨
    ∃ label ∈ scope.labelOf? uri, label ≠ "xmlns" ∧ SpacesOnly uri))

instance (scope : Scope) (name : ExpandedName) (attributes : List Attribute) :
    Decidable (scope.KeepsTag name attributes) :=
  decidable_of_iff (scope.KeepsElement name ∧ ∀ item ∈ attributes, scope.KeepsAttribute item.name)
    ⟨fun ⟨element, items⟩ => ⟨element, items⟩, fun keeps => ⟨keeps.element, keeps.attributes⟩⟩

instance (place : Place) : Decidable place.KeepsNames :=
  match place with
  | ⟨outer, .element name declared attributes _⟩ =>
      inferInstanceAs (Decidable ((outer.extend declared).KeepsTag name attributes))
  | ⟨_, .text content⟩ => inferInstanceAs (Decidable (content ≠ ""))
  | ⟨_, .comment _⟩ => .isTrue trivial
  | ⟨_, .instruction target value⟩ => inferInstanceAs (Decidable (¬ IsMisread target value))

/-- Every tag of the document declares the namespace without a label once at
most. -/
def Document.DeclaresOnce (document : Document) : Prop :=
  ∀ place ∈ document.places, place.node.declared.UnlabelledOnce

instance (document : Document) : Decidable document.DeclaresOnce :=
  List.decidableBAll _ _

/-- A document whose tags declare a default namespace once at most keeps its names
exactly when all its places do. -/
theorem Document.Accepted.namesKept_iff {document : Document} (accepted : document.Accepted)
    (once : document.DeclaresOnce) :
    document.NamesKept ↔ ∀ place ∈ document.places, place.KeepsNames := by
  have onceIn := forall_mem_placesInside.mp once
  have nodesKept := outlines_kept_iff_places fun node listed =>
    (accepted.nodes node listed).outlineKept_iff Scope.sound_nil Scope.distinct_nil
      Scope.readAs_nil (onceIn node listed)
  rw [Document.places, ← nodesKept]
  constructor
  · rintro ⟨⟨again, parsed, same⟩, -⟩
    rcases accepted.reread_of_parse?_markup parsed with found | ⟨target, value, rest, nodes, found⟩
    · exact ⟨again.nodes, found, same⟩
    · -- A node would be missing.
      have lengths := congrArg List.length same
      have restLength := Node.length_rereadInside? found
      rw [Document.outline, Document.outline, Node.length_outlines, Node.length_outlines, nodes,
        List.length_cons] at lengths
      omega
  · rintro ⟨again, found, same⟩
    have parsed := accepted.parse?_markup_of_reread found
    refine ⟨⟨⟨again⟩, parsed, same⟩, ?_⟩
    have read := accepted.ofPieces?_markup
    rw [found, Option.map_some] at read
    obtain ⟨pieces, cut, -⟩ := Option.bind_eq_some_iff.mp read
    refine ⟨pieces, cut, fun piece member => ?_⟩
    rw [accepted.pieces?_markup] at cut
    obtain ⟨node, listed, own, ownCut, inOwn⟩ := exists_of_mem_piecesInside? cut member
    have keeps := forall_mem_placesInside.mp (nodesKept.mp ⟨again, found, same⟩)
    exact (accepted.nodes node listed).namesOnce Scope.sound_nil Scope.distinct_nil
      (onceIn node listed) (keeps node listed) ownCut piece inOwn

/-- **Names in markup.** For an accepted document whose tags declare the
namespace without a label once at most, the markup is a document again with the
names of all elements and attributes, and without a name twice in one tag, if
and only if: no text is empty; no processing instruction has the target `xml`
and a value; and in every tag the namespaces of the names hold no white space
but spaces and are not bound first to the label `xmlns`, nor, for an attribute,
without a label. -/
theorem Document.namesKept_iff_places {text : String} {document : Document}
    (parsed : Document.parse? text = some document) (once : document.DeclaresOnce) :
    document.NamesKept ↔ ∀ place ∈ document.places, place.KeepsNames :=
  (Document.parse?_accepted parsed).namesKept_iff once

/-- Namespaces with and without a label, a label that is bound again, a second
label for a namespace, and the namespace without a label taken back. -/
def shadowedText : String :=
  "<r xmlns='u' xmlns:p='v' p:x=''><p:a xmlns='' xmlns:q='v'><b/></p:a><c xmlns:p='w' p:k=''/></r>"

set_option maxRecDepth 8000 in
/-- All names are kept, although `p:a` is written as `q:a`. -/
theorem namesKept_shadowedText :
    ∃ document, Document.parse? shadowedText = some document ∧ document.DeclaresOnce ∧
      (∀ place ∈ document.places, place.KeepsNames) ∧ document.NamesKept := by
  have read : (Document.parse? shadowedText).any (fun document =>
      decide (document.DeclaresOnce ∧ ∀ place ∈ document.places, place.KeepsNames)) = true :=
    (congrArg (Option.any _) (Document.parse?_ofList _)).trans (by decide +kernel)
  obtain ⟨document, parsed, checks⟩ := (Option.any_eq_true _ _).mp read
  obtain ⟨once, keeps⟩ := of_decide_eq_true checks
  exact ⟨document, parsed, once, keeps, (Document.namesKept_iff_places parsed once).mpr keeps⟩

/-- A namespace that is bound first without a label and then with the label of
an attribute. -/
def relabelledText : String :=
  "<a xmlns='u' xmlns:p='u' p:x='1'/>"

set_option maxRecDepth 8000 in
/-- The attribute loses its label, and with it its namespace. -/
theorem not_namesKept_relabelledText :
    ∃ document, Document.parse? relabelledText = some document ∧ document.DeclaresOnce ∧
      document.markup = "<a xmlns=\"u\" xmlns:p=\"u\" x=\"1\"/>" ∧ ¬ document.NamesKept := by
  have read : (Document.parse? relabelledText).any (fun document =>
      decide (document.DeclaresOnce ∧
        document.markup = "<a xmlns=\"u\" xmlns:p=\"u\" x=\"1\"/>" ∧
        ¬ ∀ place ∈ document.places, place.KeepsNames)) = true :=
    (congrArg (Option.any _) (Document.parse?_ofList _)).trans (by decide +kernel)
  obtain ⟨document, parsed, checks⟩ := (Option.any_eq_true _ _).mp read
  obtain ⟨once, markup, loses⟩ := of_decide_eq_true checks
  refine ⟨document, parsed, once, markup, fun kept => loses ?_⟩
  exact ((Document.parse?_accepted parsed).namesKept_iff once).mp kept

end IssueSync.Xml
