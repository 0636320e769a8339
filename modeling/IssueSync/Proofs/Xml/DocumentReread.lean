import IssueSync.Proofs.Xml.Declaration
import IssueSync.Proofs.Xml.Reread

/-! # Documents that are read again

The markup of a document is read as its nodes read again
(`Document.Accepted.parse?_markup`), unless its first node is a processing
instruction that is misread. That one is taken for the declaration of the document
and lost, or everything is refused (`Document.Accepted.parse?_markup_misread`).
-/

namespace IssueSync.Xml

/-- As many elements are read back as there were. -/
theorem countP_rereadInside? {outer read : Scope} {nodes again : List Node}
    (found : Node.rereadInside? outer read nodes = some again) :
    again.countP Node.isElement = nodes.countP Node.isElement := by
  induction nodes generalizing again with
  | nil =>
      cases found
      rfl
  | cons node rest ih =>
      rw [Node.rereadInside?] at found
      obtain ⟨first, head, tail⟩ := Option.bind_eq_some_iff.mp found
      obtain ⟨more, restFound, rfl⟩ := Option.map_eq_some_iff.mp tail
      rw [List.countP_append, Node.countP_reread? head, ih restFound, ← List.countP_append,
        List.singleton_append]

/-- The pieces of nodes at the top make a document of what they are read as,
when there is one element among them. -/
theorem ofPieces?_piecesInside? {nodes : List Node} (accepted : ∀ node ∈ nodes, node.Accepted [])
    (noText : ∀ node ∈ nodes, node.isText = false)
    (single : nodes.countP Node.isElement = 1) :
    (Node.piecesInside? [] nodes).bind Document.ofPieces? =
      (Node.rereadInside? [] [] nodes).map Document.mk := by
  have admits : Assembly.initial.Admits nodes :=
    ⟨isChain_apart_of_noText noText, nofun, fun _ => ⟨noText, by simp [Assembly.initial, single]⟩⟩
  have run := assembles_inside (fun node member => (accepted node member).assembles)
    Assembly.initial admits
  have scope : Assembly.initial.scope = [] := rfl
  rw [scope] at run
  have finish : ∀ again, Node.rereadInside? [] [] nodes = some again →
      (Assembly.initial.addAll again).finish? = some ⟨again⟩ := by
    intro again found
    have element : again.reverse.any Node.isElement = true := by
      rw [List.any_reverse, List.any_eq_true, ← List.countP_pos_iff, countP_rereadInside? found,
        single]
      exact Nat.zero_lt_one
    have added : Assembly.initial.addAll again = ⟨[], again.reverse⟩ := by
      rw [Assembly.initial, Assembly.addAll_top, List.append_nil]
    rw [added, Assembly.finish?]
    dsimp only
    rw [element, List.isEmpty_nil, Bool.true_and, if_pos rfl, List.reverse_reverse]
  have steps : (Node.piecesInside? [] nodes).bind Document.ofPieces? =
      ((Node.piecesInside? [] nodes).bind Assembly.initial.steps?).bind Assembly.finish? := by
    rw [Option.bind_assoc]
    rfl
  rw [steps, run, Option.bind_map]
  cases found : Node.rereadInside? [] [] nodes with
  | none => rfl
  | some again => exact finish again found

/-- A text that does not begin with a declaration has none. -/
theorem afterDeclaration?_of_none {text : List Char}
    (none : Text.afterStart? ['<', '?', 'x', 'm', 'l', ' '] text = none) :
    afterDeclaration? text = some text := by
  rw [afterDeclaration?, none]

/-- Only a processing instruction that is misread begins as a declaration does. -/
theorem Node.Accepted.afterStart?_markup {outer : Scope} {node : Node}
    (accepted : node.Accepted outer) (outerSound : outer.Sound) (noText : node.isText = false)
    (read : ∀ target value, node = .instruction target value → ¬ IsMisread target value)
    (rest : List Char) :
    Text.afterStart? ['<', '?', 'x', 'm', 'l', ' '] ((node.markup outer).toList ++ rest) =
      none := by
  cases accepted with
  | @element _ name declared attributes content sound once hosts inside apart =>
      have scopeSound := outerSound.extend sound
      obtain ⟨more, same⟩ := Node.markup_element outer name declared attributes content
      obtain ⟨first, tail, begins, starts⟩ :=
        (scopeSound.writtenName_named hosts.named).run_eq_cons
      obtain ⟨-, -, -, -, notInstruction⟩ :=
        isNameCharacter_ne (isNameCharacter_of_isNameStart starts)
      rw [same, scopeSound.toList_qualify, begins]
      exact afterStart?_of_ne notInstruction.symm _ _
  | text characters => cases noText
  | @comment _ content sound =>
      have same : (Node.markup outer (.comment content)).toList ++ rest =
          '<' :: '!' :: '-' :: '-' :: (content.toList ++ ['-', '-', '>'] ++ rest) := by
        simp [Node.markup]
      have different : '?' ≠ '!' := by decide
      rw [same]
      change Text.afterStart? ['?', 'x', 'm', 'l', ' ']
        ('!' :: '-' :: '-' :: (content.toList ++ ['-', '-', '>'] ++ rest)) = none
      exact afterStart?_of_ne different _ _
  | @instruction _ target value targetSound valueSound =>
      have same : (Node.markup outer (.instruction target value)).toList ++ rest =
          '<' :: '?' :: (target.toList ++ (instructionRest value ++ '?' :: '>' :: rest)) := by
        simp [Node.toList_markup_instruction]
      rw [same]
      change Text.afterStart? ['x', 'm', 'l', ' ']
        (target.toList ++ (instructionRest value ++ '?' :: '>' :: rest)) = none
      rw [← Option.not_isSome_iff_eq_none, afterStart?_instruction targetSound]
      exact read target value rfl

namespace Document.Accepted

variable {document : Document}

/-- A document is read back as its nodes are. -/
theorem ofPieces?_markup (accepted : document.Accepted) :
    (pieces? document.markup.toList).bind Document.ofPieces? =
      (Node.rereadInside? [] [] document.nodes).map Document.mk := by
  rw [accepted.pieces?_markup]
  exact ofPieces?_piecesInside? accepted.nodes accepted.noText accepted.single

/-- The first node of a document, with those after it. -/
theorem exists_first (accepted : document.Accepted) :
    ∃ first rest, document.nodes = first :: rest := by
  have single := accepted.single
  cases nodes : document.nodes with
  | nil =>
      rw [nodes] at single
      cases single
  | cons first rest => exact ⟨first, rest, rfl⟩

/-- No document is written with a byte order mark. -/
theorem withoutMark_markup (accepted : document.Accepted) :
    withoutMark document.markup.toList = document.markup.toList := by
  obtain ⟨first, rest, nodes⟩ := accepted.exists_first
  have noText := accepted.noText first (nodes ▸ List.mem_cons_self)
  obtain ⟨more, begins⟩ := Node.markup_eq_cons [] noText
  rw [Document.markup, nodes, Node.markupAll, String.toList_append, begins]
  rfl

/-- Markup that does not begin as a declaration does is read as the nodes read
again. -/
theorem parse?_markup (accepted : document.Accepted)
    (read : ∀ target value rest, document.nodes = .instruction target value :: rest →
      ¬ IsMisread target value) :
    Document.parse? document.markup =
      (Node.rereadInside? [] [] document.nodes).map Document.mk := by
  obtain ⟨first, rest, nodes⟩ := accepted.exists_first
  have member : first ∈ document.nodes := nodes ▸ List.mem_cons_self
  have noDeclaration := (accepted.nodes first member).afterStart?_markup Scope.sound_nil
    (accepted.noText first member) (fun target value same => read target value rest (same ▸ nodes))
    (Node.markupAll [] rest).toList
  have whole : (first.markup []).toList ++ (Node.markupAll [] rest).toList =
      document.markup.toList := by
    rw [Document.markup, nodes, Node.markupAll, String.toList_append]
  rw [whole] at noDeclaration
  rw [Document.parse?, Document.ofCharacters?, accepted.withoutMark_markup,
    afterDeclaration?_of_none noDeclaration]
  exact accepted.ofPieces?_markup

/-- What stands behind a comment or an instruction is accepted as well. -/
theorem tail {first : Node} {rest : List Node} (accepted : Accepted ⟨first :: rest⟩)
    (other : first.isElement = false) : Accepted ⟨rest⟩ where
  nodes node member := accepted.nodes node (List.mem_cons_of_mem _ member)
  noText node member := accepted.noText node (List.mem_cons_of_mem _ member)
  single := by
    have single := accepted.single
    dsimp only at single
    rwa [List.countP_cons_of_neg (by rw [other]; exact Bool.false_ne_true)] at single

/-- A first node that is misread is taken for the declaration of the document,
or everything is refused. -/
theorem parse?_markup_misread {target : String} {value : Option String} {rest : List Node}
    {again : Document} (accepted : Accepted ⟨.instruction target value :: rest⟩)
    (misread : IsMisread target value)
    (parsed : Document.parse? (Document.markup ⟨.instruction target value :: rest⟩) = some again) :
    Node.rereadInside? [] [] rest = some again.nodes := by
  obtain ⟨rfl, filled⟩ := misread
  obtain ⟨value, rfl⟩ := Option.ne_none_iff_exists'.mp filled
  have restAccepted := accepted.tail rfl
  obtain ⟨first, others, nodes⟩ := restAccepted.exists_first
  obtain ⟨more, begins⟩ := Node.markup_eq_cons []
    (restAccepted.noText first (nodes ▸ List.mem_cons_self))
  have restMarkup : (Document.markup ⟨rest⟩).toList = '<' ::
      (more ++ (Node.markupAll [] others).toList) := by
    dsimp only at nodes
    rw [Document.markup, nodes, Node.markupAll, String.toList_append, begins, List.cons_append]
  have whole : (Document.markup ⟨.instruction "xml" (some value) :: rest⟩).toList =
      ['<', '?', 'x', 'm', 'l', ' '] ++ (value.toList ++ ['?', '>'] ++ '<' ::
        (more ++ (Node.markupAll [] others).toList)) := by
    rw [← restMarkup]
    simp [Document.markup, Node.markupAll, Node.markup]
  have ends : EndsAt ['?', '>'] value.toList := by
    cases accepted.nodes _ List.mem_cons_self with
    | instruction targetSound valueSound => exact (valueSound value rfl).ends
  rw [Document.parse?, Document.ofCharacters?, accepted.withoutMark_markup, whole] at parsed
  obtain ⟨body, declaration, parsed⟩ := Option.bind_eq_some_iff.mp parsed
  rw [afterDeclaration?_of_ends ends declaration, ← restMarkup] at parsed
  have read := restAccepted.ofPieces?_markup.symm.trans parsed
  obtain ⟨found, same, rfl⟩ := Option.map_eq_some_iff.mp read
  exact same

/-- What the markup is read as are the nodes read again, perhaps without a first
one that is misread. -/
theorem reread_of_parse?_markup {again : Document} (accepted : document.Accepted)
    (parsed : Document.parse? document.markup = some again) :
    Node.rereadInside? [] [] document.nodes = some again.nodes ∨
      ∃ target value rest, document.nodes = .instruction target value :: rest ∧
        Node.rereadInside? [] [] rest = some again.nodes := by
  by_cases misread : ∃ target value rest, document.nodes = .instruction target value :: rest ∧
      IsMisread target value
  · obtain ⟨target, value, rest, nodes, isMisread⟩ := misread
    obtain ⟨whole⟩ := document
    dsimp only at nodes
    subst nodes
    exact .inr ⟨target, value, rest, rfl, parse?_markup_misread accepted isMisread parsed⟩
  · rw [accepted.parse?_markup fun target value rest nodes isMisread =>
      misread ⟨target, value, rest, nodes, isMisread⟩] at parsed
    obtain ⟨nodes, found, rfl⟩ := Option.map_eq_some_iff.mp parsed
    exact .inl found

/-- When the nodes are read again, so is the markup. -/
theorem parse?_markup_of_reread {again : List Node} (accepted : document.Accepted)
    (found : Node.rereadInside? [] [] document.nodes = some again) :
    Document.parse? document.markup = some ⟨again⟩ := by
  rw [accepted.parse?_markup, found, Option.map_some]
  intro target value rest nodes misread
  rw [nodes, Node.rereadInside?, Node.reread?, if_pos misread] at found
  cases found

end Document.Accepted

end IssueSync.Xml
