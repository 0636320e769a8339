import IssueSync.Proofs.Xml.ContentMarkup
import IssueSync.Proofs.Xml.WrittenPieces

/-! # The pieces of markup

Markup is cut into pieces where it was put together. A tag is written as its name
and its items (`toList_startTagRest`). The markup of a node yields the pieces of
the node, and then come those of the text behind it (`Node.Accepted.yields_markup`),
so the markup of a document is cut into the pieces of its nodes
(`Document.Accepted.pieces?_markup`).
-/

namespace IssueSync.Xml

variable {rest : List Char}

/-! ### Written tags -/

/-- A name is written with names on both sides of its colon. -/
theorem Scope.Sound.writtenName_named {scope : Scope} (sound : scope.Sound) {name : ExpandedName}
    (named : IsName name.localName.toList) : (scope.writtenName name).IsNamed := by
  refine ⟨?_, named⟩
  rw [Scope.writtenName, Scope.writtenLabel]
  dsimp only
  split
  · exact .inl rfl
  · split
    · exact .inr ⟨by decide, List.all_eq_true.mp (by decide)⟩
    · split
      · next label found =>
          exact .inr ((sound _ (Scope.mem_of_labelOf? found)).named label rfl)
      · exact .inl rfl

theorem Scope.Sound.toList_qualify {scope : Scope} (sound : scope.Sound) (name : ExpandedName) :
    (scope.qualify name).toList = (scope.writtenName name).run := by
  obtain ⟨namespaceUri, localName⟩ := name
  cases namespaceUri with
  | none => rfl
  | some uri =>
      by_cases reserved : uri = xmlUri
      · simp [Scope.qualify, Scope.writtenName, Scope.writtenLabel, WrittenName.run, reserved]
      · cases found : scope.labelOf? uri with
        | none =>
            simp [Scope.qualify, Scope.writtenName, Scope.writtenLabel, WrittenName.run, reserved,
              found]
        | some label =>
            simp [Scope.qualify, Scope.writtenName, Scope.writtenLabel, WrittenName.run, reserved,
              found, (sound.ne_of_labelOf? found).1]

theorem Binding.toList_markup (binding : Binding) :
    binding.markup.toList = binding.written.markup := by
  obtain ⟨label, uri⟩ := binding
  cases label with
  | none => simp [Binding.markup, Binding.written, toList_writePair, WrittenAttribute.markup,
      WrittenName.run]
  | some label => simp [Binding.markup, Binding.written, toList_writePair,
      WrittenAttribute.markup, WrittenName.run]

theorem Attribute.toList_markup {scope : Scope} (sound : scope.Sound) (item : Attribute) :
    (writePair (scope.qualify item.name) item.value).toList = (item.written scope).markup := by
  rw [toList_writePair, sound.toList_qualify]
  simp [Attribute.written, WrittenAttribute.markup]

/-- What follows the name in a start tag are its items. -/
theorem toList_startTagRest (outer : Scope) {scope : Scope} (sound : scope.Sound)
    (attributes : List Attribute) :
    (startTagRest outer scope attributes).toList =
      (startItems outer scope attributes).flatMap WrittenAttribute.markup := by
  rw [startTagRest, String.toList_append, String.toList_join, String.toList_join, startItems,
    List.flatMap_append, List.flatMap_map, List.flatMap_map, List.flatMap_map, List.flatMap_map]
  simp only [Binding.toList_markup, Attribute.toList_markup sound]

/-- Everything written in a start tag can be read. -/
theorem startItems_sound (outer : Scope) {scope : Scope} {name : ExpandedName}
    {attributes : List Attribute} (sound : scope.Sound) (hosts : scope.Hosts name attributes) :
    ItemsSound (startItems outer scope attributes) := by
  refine List.forall_mem_append.mpr ⟨?_, ?_⟩
  · intro item member
    obtain ⟨binding, listed, rfl⟩ := List.mem_map.mp member
    have bindingSound := sound binding (Scope.mem_introduced.mp listed).1
    have xmlns : IsName "xmlns".toList := ⟨by decide, List.all_eq_true.mp (by decide)⟩
    obtain ⟨label, uri⟩ := binding
    cases label with
    | none => exact ⟨⟨.inl rfl, xmlns⟩, bindingSound.characters⟩
    | some label =>
        exact ⟨⟨.inr xmlns, bindingSound.named label rfl⟩, bindingSound.characters⟩
  · intro item member
    obtain ⟨original, listed, rfl⟩ := List.mem_map.mp member
    have itemSound := hosts.sound original listed
    exact ⟨sound.writtenName_named itemSound.named, itemSound.characters⟩

/-! ### The pieces of a node -/

mutual

/-- The pieces that the markup of a node is read as, unless it is misread. -/
def Node.pieces? (outer : Scope) : Node → Option (List Piece)
  | .element name declared attributes content =>
      let scope := outer.extend declared
      let tag := scope.writtenName name
      let items := (startItems outer scope attributes).map WrittenAttribute.again
      if content.isEmpty then some [.startTag tag items true]
      else (Node.piecesInside? scope content).map fun inside =>
        .startTag tag items false :: (inside ++ [.endTag tag])
  | .text content =>
      some (if content = "" then [] else [.characters (escape .betweenTags content).toList])
  | .comment content => some [.comment content]
  | .instruction target value =>
      if IsMisread target value then none else some [.instruction target value]

/-- The pieces that several nodes are read as. -/
def Node.piecesInside? (outer : Scope) : List Node → Option (List Piece)
  | [] => some []
  | node :: rest =>
      (Node.pieces? outer node).bind fun first => (Node.piecesInside? outer rest).map (first ++ ·)

end

/-- With `rest` behind it, the text is read as these pieces. -/
def Yields (text : List Char) (pieces : Option (List Piece)) (rest : List Char) : Prop :=
  pieces? (text ++ rest) = pieces.bind fun first => (pieces? rest).map (first ++ ·)

theorem yields_nil (rest : List Char) : Yields [] (some []) rest := by
  simp [Yields]

/-- A text that one piece is read from yields this piece. -/
theorem yields_of_readPiece? {text : List Char} {piece : Piece}
    (read : readPiece? (text ++ rest) = some (piece, rest)) : Yields text (some [piece]) rest :=
  pieces?_of_readPiece? read

theorem Yields.append {first second : List Char} {firstPieces secondPieces : Option (List Piece)}
    (firstYields : Yields first firstPieces (second ++ rest))
    (secondYields : Yields second secondPieces rest) :
    Yields (first ++ second)
      (firstPieces.bind fun earlier => secondPieces.map (earlier ++ ·)) rest := by
  rw [Yields, List.append_assoc, firstYields, secondYields]
  cases firstPieces with
  | none => rfl
  | some earlier =>
      cases secondPieces with
      | none => rfl
      | some later => simp [Function.comp_def]

/-- A written start tag yields one piece, with its values as they are read. -/
theorem yields_startTag {tag : WrittenName} {items : List WrittenAttribute} (named : tag.IsNamed)
    (sound : ItemsSound items) (closed : Bool) (rest : List Char) :
    Yields ('<' :: (tag.run ++ (items.flatMap WrittenAttribute.markup ++ tagEnd closed)))
      (some [.startTag tag (items.map WrittenAttribute.again) closed]) rest := by
  refine yields_of_readPiece? ?_
  simpa using readPiece?_startTag named sound closed rest

/-- A written end tag yields one piece. -/
theorem yields_endTag {tag : WrittenName} (named : tag.IsNamed) (rest : List Char) :
    Yields ('<' :: '/' :: (tag.run ++ ['>'])) (some [.endTag tag]) rest := by
  refine yields_of_readPiece? ?_
  simpa using readPiece?_endTag named rest

theorem Node.toList_markup_instruction (outer : Scope) (target : String)
    (value : Option String) :
    (Node.markup outer (.instruction target value)).toList =
      '<' :: '?' :: (target.toList ++ (instructionRest value ++ ['?', '>'])) := by
  cases value with
  | none => simp [Node.markup, instructionRest]
  | some value => simp [Node.markup, instructionRest]

theorem Node.markup_eq_cons (outer : Scope) {node : Node} (noText : node.isText = false) :
    ∃ more, (node.markup outer).toList = '<' :: more := by
  cases node with
  | element name declared attributes content =>
      exact ⟨_, (Node.markup_element outer name declared attributes content).choose_spec⟩
  | text content => cases noText
  | comment content => exact ⟨_, by simp [Node.markup]; rfl⟩
  | instruction target value => exact ⟨_, Node.toList_markup_instruction outer target value⟩

/-- Nodes that do not begin with a text end a text before them. -/
theorem opens_markupAll {outer : Scope} {nodes : List Node}
    (noText : ∀ first, nodes.head? = some first → first.isText = false) (opens : Opens rest) :
    Opens ((Node.markupAll outer nodes).toList ++ rest) := by
  cases nodes with
  | nil => exact opens
  | cons node others =>
      obtain ⟨more, begins⟩ := Node.markup_eq_cons outer (noText node rfl)
      intro first same
      rw [Node.markupAll, String.toList_append, begins] at same
      exact (Option.some.inj same).symm

/-- The markup of nodes yields the pieces of each of them. -/
theorem yields_markupAll {outer : Scope} {nodes : List Node}
    (each : ∀ node ∈ nodes, ∀ rest, (node.isText = true → Opens rest) →
      Yields (node.markup outer).toList (node.pieces? outer) rest)
    (apart : nodes.IsChain Node.Apart) (opens : Opens rest) :
    Yields (Node.markupAll outer nodes).toList (Node.piecesInside? outer nodes) rest := by
  induction nodes with
  | nil => exact yields_nil rest
  | cons node others ih =>
      obtain ⟨first, later⟩ := List.forall_mem_cons.mp each
      obtain ⟨next, othersApart⟩ := List.isChain_cons.mp apart
      rw [Node.markupAll, String.toList_append, Node.piecesInside?]
      refine (first _ fun isText => ?_).append (ih later othersApart)
      exact opens_markupAll (fun other begins => next other begins isText) opens

/-- Tags around a text add their pieces to those of the text. -/
theorem Yields.between {tag : WrittenName} {items : List WrittenAttribute} {text : List Char}
    {pieces : Option (List Piece)} (named : tag.IsNamed) (sound : ItemsSound items)
    (inside : Yields text pieces ('<' :: '/' :: (tag.run ++ ['>']) ++ rest)) :
    Yields ('<' :: (tag.run ++ (items.flatMap WrittenAttribute.markup ++ tagEnd false)) ++
        (text ++ '<' :: '/' :: (tag.run ++ ['>'])))
      (pieces.map fun inside =>
        .startTag tag (items.map WrittenAttribute.again) false :: (inside ++ [.endTag tag]))
      rest := by
  have whole := (yields_startTag named sound false _).append
    (inside.append (yields_endTag named rest))
  cases pieces with
  | none => exact whole
  | some pieces => exact whole

/-- The markup of a node yields its pieces. -/
theorem Node.Accepted.yields_markup {outer : Scope} {node : Node} (accepted : node.Accepted outer)
    (outerSound : outer.Sound) (rest : List Char) (opens : node.isText = true → Opens rest) :
    Yields (node.markup outer).toList (node.pieces? outer) rest := by
  induction accepted generalizing rest with
  | @element outer name declared attributes content sound once hosts inside apart ih =>
      have scopeSound := outerSound.extend sound
      have named := scopeSound.writtenName_named hosts.named
      have itemsSound := startItems_sound outer scopeSound hosts
      have restMarkup := toList_startTagRest outer scopeSound attributes
      have tagMarkup := scopeSound.toList_qualify name
      cases content with
      | nil =>
          have start := yields_startTag named itemsSound true rest
          rw [Node.pieces?, List.isEmpty_nil, if_pos rfl]
          simpa [Node.markup, restMarkup, tagMarkup, tagEnd] using start
      | cons first others =>
          have opensEnd : Opens ('<' :: '/' ::
              (((outer.extend declared).writtenName name).run ++ ['>']) ++ rest) :=
            fun head same => (Option.some.inj same).symm
          have middle := yields_markupAll
            (fun node member rest opens => ih node member scopeSound rest opens) apart opensEnd
          have whole := middle.between named itemsSound
          rw [Node.pieces?, List.isEmpty_cons, if_neg Bool.false_ne_true]
          simpa [Node.markup, Node.markupAll, restMarkup, tagMarkup, tagEnd] using whole
  | @text outer content characters =>
      rw [Node.markup, Node.pieces?]
      split
      · next blank =>
          rw [blank]
          exact yields_nil rest
      · next filled =>
          exact yields_of_readPiece? (readPiece?_characters filled characters (opens rfl))
  | @comment outer content sound =>
      refine yields_of_readPiece? ?_
      simpa [Node.markup] using readPiece?_comment sound rest
  | @instruction outer target value targetSound valueSound =>
      have read := readPiece?_instruction targetSound valueSound rest
      have whole : (Node.markup outer (.instruction target value)).toList ++ rest =
          '<' :: '?' :: (target.toList ++ (instructionRest value ++ '?' :: '>' :: rest)) := by
        simp [Node.toList_markup_instruction]
      rw [Node.pieces?]
      split
      · next misread =>
          rw [if_pos misread] at read
          rw [Yields, whole]
          exact pieces?_of_readPiece?_none read
      · next readable =>
          rw [if_neg readable, ← whole] at read
          exact yields_of_readPiece? read

/-- The markup of a document is read as the pieces of its nodes. -/
theorem Document.Accepted.pieces?_markup {document : Document} (accepted : document.Accepted) :
    pieces? document.markup.toList = Node.piecesInside? [] document.nodes := by
  have ends : Opens [] := nofun
  have whole := yields_markupAll
    (fun node member rest opens =>
      (accepted.nodes node member).yields_markup Scope.sound_nil rest opens)
    (isChain_apart_of_noText accepted.noText) ends
  rw [Yields, List.append_nil] at whole
  rw [Document.markup, whole]
  cases Node.piecesInside? [] document.nodes with
  | none => rfl
  | some pieces => simp [pieces?]

end IssueSync.Xml
