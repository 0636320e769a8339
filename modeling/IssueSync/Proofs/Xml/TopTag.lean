import IssueSync.Proofs.Xml.DocumentReread

/-! # The start tag of the top element

Before its top element a document has comments, processing instructions and
character data. What each of them is read as does not depend on what follows
(`exists_of_readPiece?`), so the pieces around the first start tag stay when one
more attribute is written in it (`addsToTop_withDefaultNamespace`).
-/

namespace IssueSync.Xml

open Text (splitFirst? afterStart? afterStart?_eq_some_iff afterStart?_eq_none_iff
  afterStart?_append_cons Stops stops_cons takeWhile_append dropWhile_append takeWhile_append_cons
  dropWhile_append_cons exists_of_dropWhile_eq_cons)

variable {text after rest : List Char} {piece : Piece}

/-! ### Before the top element -/

/-- A piece that may stand before the top element. -/
def Piece.isMisc : Piece → Bool
  | .comment _ | .instruction .. | .characters _ => true
  | _ => false

/-- A comment is read whatever follows it. -/
theorem exists_of_readComment? (read : readComment? text = some (piece, after)) :
    ∃ used, text = used ++ after ∧
      ∀ other, readComment? (used ++ other) = some (piece, other) := by
  simp only [readComment?] at read
  split at read
  · cases read
  · next content tail found =>
      split at read
      · next checks =>
          cases read
          refine ⟨content ++ ['-', '-', '>'], Text.eq_of_splitFirst? found, fun other => ?_⟩
          simp only [readComment?, endsAt_of_splitFirst? found other, checks, if_true]
      · cases read

/-- What is read of a processing instruction whose end is in sight. -/
theorem readInstruction?_append_cons (front rest : List Char) :
    readInstruction? (front ++ '?' :: rest) =
      if (afterStart? ['x', 'm', 'l', ' '] front).isSome ||
          !(front.takeWhile isNameCharacter).head?.any (fun first =>
            first == ':' || isNameStart first) then none
      else
        match splitFirst? ['?', '>']
            ((front.dropWhile isNameCharacter).dropWhile isSpace ++ '?' :: rest) with
        | none => none
        | some (value, after) =>
            if value.all isXmlChar then
              some (.instruction (String.ofList (front.takeWhile isNameCharacter))
                (if value.isEmpty then none else some (String.ofList value)), after)
            else none := by
  unfold readInstruction?
  rewrite [afterStart?_append_cons (by decide), Option.isSome_map,
    takeWhile_append_cons _ _ (by decide), dropWhile_append_cons _ _ (by decide),
    dropWhile_append_cons _ _ (by decide)]
  rfl

/-- An instruction ends with its mark. -/
theorem suffix_of_readInstruction? (read : readInstruction? text = some (piece, after)) :
    '?' :: '>' :: after <:+ text := by
  simp only [readInstruction?] at read
  split at read
  · cases read
  · split at read
    · cases read
    · next value tail found =>
        split at read
        · cases read
          have whole := Text.eq_of_splitFirst? found
          rw [List.append_assoc] at whole
          apply List.IsSuffix.trans ⟨value, whole.symm⟩
          exact (List.dropWhile_suffix isSpace).trans (List.dropWhile_suffix isNameCharacter)
        · cases read

/-- An instruction is read whatever follows it. -/
theorem exists_of_readInstruction? (read : readInstruction? text = some (piece, after)) :
    ∃ used, text = used ++ after ∧
      ∀ other, readInstruction? (used ++ other) = some (piece, other) := by
  obtain ⟨front, rfl⟩ := suffix_of_readInstruction? read
  refine ⟨front ++ ['?', '>'], by simp, fun other => ?_⟩
  rw [readInstruction?_append_cons] at read
  rw [List.append_assoc, List.cons_append, readInstruction?_append_cons]
  split at read
  · cases read
  · next checks =>
      rw [if_neg checks]
      split at read
      · cases read
      · next value tail found =>
          split at read
          · next allowed =>
              cases read
              have whole := Text.eq_of_splitFirst? found
              rw [List.append_assoc] at whole
              have again := endsAt_of_splitFirst? found other
              rw [List.append_assoc] at again
              rw [List.append_cancel_right whole]
              change (match splitFirst? ['?', '>'] (value ++ (['?', '>'] ++ other)) with
                | none => none
                | some (value, after) => _) = _
              rw [again]
              exact if_pos allowed
          · cases read

/-- Characters between tags are read up to the next bracket or the end. -/
theorem exists_of_readCharacters? (read : readCharacters? text = some (piece, after)) :
    ∃ used, text = used ++ after ∧ ∀ other, other.head? = after.head? →
      readCharacters? (used ++ other) = some (piece, other) := by
  simp only [readCharacters?] at read
  split at read
  · next checks =>
      cases read
      refine ⟨_, List.takeWhile_append_dropWhile.symm, fun other sameHead => ?_⟩
      have inside : ∀ character ∈ text.takeWhile (· != '<'), (character != '<') = true :=
        List.all_eq_true.mp List.all_takeWhile
      have stops : Stops (· != '<') other := by
        intro first begins
        have head := List.head?_dropWhile_not (· != '<') text
        rw [← sameHead, begins] at head
        simpa using head
      simp only [readCharacters?, takeWhile_append inside stops, dropWhile_append inside stops,
        checks, if_true]
  · cases read

/-- A section is text, which has to stand inside an element. -/
theorem isMisc_of_readSection? (read : readSection? text = some (piece, after)) :
    piece.isMisc = false := by
  grind [readSection?, Piece.isMisc]

theorem isMisc_of_readEndTag? (read : readEndTag? text = some (piece, after)) :
    piece.isMisc = false := by
  grind [readEndTag?, Piece.isMisc]

theorem isMisc_of_readStartTag? (read : readStartTag? text = some (piece, after)) :
    piece.isMisc = false := by
  grind [readStartTag?, Piece.isMisc, Option.map_eq_some_iff]

/-- Comments and instructions are read whatever follows them. -/
theorem exists_of_readMarkup? (read : readMarkup? text = some (piece, after))
    (misc : piece.isMisc = true) :
    ∃ used, text = used ++ after ∧ ∀ other, readMarkup? (used ++ other) = some (piece, other) := by
  simp only [readMarkup?] at read
  split at read
  · next body starts =>
      obtain ⟨used, rfl, again⟩ := exists_of_readComment? read
      have whole := afterStart?_eq_some_iff.mp starts
      exact ⟨'!' :: '-' :: '-' :: used, whole, again⟩
  · split at read
    · rw [isMisc_of_readSection? read] at misc
      cases misc
    · split at read
      · next body _ _ =>
          obtain ⟨used, rfl, again⟩ := exists_of_readInstruction? read
          exact ⟨'?' :: used, rfl, again⟩
      · rw [isMisc_of_readEndTag? read] at misc
        cases misc
      · rw [isMisc_of_readStartTag? read] at misc
        cases misc

/-- What stands before the top element is read as it is, if what follows begins
with the same character. -/
theorem exists_of_readPiece? (read : readPiece? text = some (piece, after))
    (misc : piece.isMisc = true) :
    ∃ used, text = used ++ after ∧
      ∀ other, other.head? = after.head? → readPiece? (used ++ other) = some (piece, other) := by
  cases text with
  | nil => cases read
  | cons first tail =>
      simp only [readPiece?] at read
      split at read
      · next opening =>
          obtain ⟨used, rfl, again⟩ := exists_of_readMarkup? read misc
          refine ⟨first :: used, rfl, fun other _ => ?_⟩
          rw [List.cons_append, readPiece?, if_pos opening, again]
      · next notOpening =>
          obtain ⟨used, whole, again⟩ := exists_of_readCharacters? read
          -- A bracket at the front of another text would be read as markup.
          have filled : used ≠ [] := by
            rintro rfl
            have shorter : after.length < (first :: tail).length :=
              readPiece?_shorter ((if_neg notOpening).trans read)
            rw [whole] at shorter
            exact Nat.lt_irrefl _ shorter
          obtain ⟨head, more, rfl⟩ := List.exists_cons_of_ne_nil filled
          obtain ⟨rfl, rfl⟩ := List.cons.inj whole
          refine ⟨first :: more, rfl, fun other sameHead => ?_⟩
          rw [List.cons_append, readPiece?, if_neg notOpening]
          exact again other sameHead

/-! ### The start tag -/

section StartTag

variable {name : WrittenName} {items : List WrittenAttribute} {closed : Bool} {run : List Char}

/-- The run of characters is read as this name. -/
structure WrittenName.IsReadFrom (name : WrittenName) (run : List Char) : Prop where
  characters : ∀ character ∈ run, isNameCharacter character = true
  read : ofRun? run = some name

/-- A name is read from its characters wherever it ends. -/
theorem WrittenName.IsReadFrom.readName? (isRead : name.IsReadFrom run)
    (stops : Stops isNameCharacter rest) : readName? (run ++ rest) = some (name, rest) := by
  unfold Xml.readName?
  rw [takeWhile_append isRead.characters stops, dropWhile_append isRead.characters stops,
    isRead.read, Option.map_some]

/-- Only start tags are read as start tags. -/
theorem readStartTag?_of_readMarkup?
    (read : readMarkup? text = some (.startTag name items closed, after)) :
    readStartTag? text = some (.startTag name items closed, after) := by
  simp only [readMarkup?] at read
  split at read
  · grind [readComment?]
  · split at read
    · grind [readSection?]
    · split at read
      · grind [readInstruction?]
      · grind [readEndTag?]
      · exact read

/-- A start tag is read from its name and what follows it. -/
theorem readPiece?_of_isReadFrom (isRead : name.IsReadFrom run) (stops : Stops isNameCharacter rest)
    (read : readAttributes? rest = some ((items, closed), after)) :
    readPiece? ('<' :: (run ++ rest)) = some (.startTag name items closed, after) := by
  have nameRead := isRead.readName? stops
  cases run with
  | nil => cases isRead.read
  | cons first more =>
      have part := isRead.characters first List.mem_cons_self
      rw [List.cons_append] at nameRead ⊢
      rw [readPiece?, if_pos rfl, readMarkup?_of_isNameCharacter part, readStartTag?, nameRead]
      dsimp only
      rw [read, Option.map_some]

/-- A start tag is a name in an opening bracket, and attributes. -/
theorem exists_of_readPiece?_startTag
    (read : readPiece? text = some (.startTag name items closed, after)) :
    ∃ run rest, text = '<' :: (run ++ rest) ∧ name.IsReadFrom run ∧ Stops isNameCharacter rest ∧
      readAttributes? rest = some ((items, closed), after) := by
  cases text with
  | nil => cases read
  | cons first tail =>
      simp only [readPiece?] at read
      split at read
      · next opening =>
          have startTag := readStartTag?_of_readMarkup? read
          simp only [readStartTag?] at startTag
          split at startTag
          · cases startTag
          · next found afterName nameRead =>
              obtain ⟨tag, tagRead, same⟩ := Option.map_eq_some_iff.mp startTag
              cases same
              obtain ⟨written, isRun, split⟩ := Option.map_eq_some_iff.mp nameRead
              cases split
              refine ⟨tail.takeWhile isNameCharacter, tail.dropWhile isNameCharacter, ?_,
                ⟨List.all_eq_true.mp List.all_takeWhile, isRun⟩, ?_, tagRead⟩
              · rw [opening, List.takeWhile_append_dropWhile]
              · intro character begins
                have head := List.head?_dropWhile_not isNameCharacter tail
                rw [begins] at head
                exact Bool.eq_false_iff.mpr (by simpa using head)
      · grind [readCharacters?]

end StartTag

/-! ### One more attribute -/

/-- The text behind the name in the first start tag, when only comments,
processing instructions and character data stand before it. -/
def behindTopName? (text : List Char) : Option (List Char) :=
  match _read : readPiece? text with
  | none => none
  | some (.startTag .., _) => some (text.tail.dropWhile isNameCharacter)
  | some (piece, after) => if piece.isMisc then behindTopName? after else none
termination_by text.length
decreasing_by exact readPiece?_shorter _read

/-- The pieces of a text behind its declaration. -/
def textPieces? (text : String) : Option (List Piece) :=
  (afterDeclaration? (withoutMark text.toList)).bind pieces?

/-- The declaration of a default namespace, as an attribute. -/
def defaultItem (uri : String) : WrittenAttribute :=
  ⟨⟨[], "xmlns".toList⟩, uri⟩

/-- The declaration is written with a name. -/
theorem isNamed_defaultItem (uri : String) : (defaultItem uri).name.IsNamed := by
  have named : IsName "xmlns".toList := ⟨by decide, List.all_eq_true.mp (by decide)⟩
  exact ⟨.inl rfl, named⟩

/-- The characters with one more declaration in their first start tag, behind the
name of the element. -/
def declaringDefault (written characters : List Char) : List Char :=
  match (afterDeclaration? (withoutMark characters)).bind behindTopName? with
  | none => characters
  | some rest =>
      characters.take (characters.length - rest.length) ++
        " xmlns=\"".toList ++ written ++ '"' :: rest

/-- A text with a declaration of a default namespace in its top tag, written as given. -/
def withDefaultNamespace (written text : String) : String :=
  String.ofList (declaringDefault written.toList text.toList)

/-- The declaration is put in by characters. -/
theorem withDefaultNamespace_ofList (written : String) (characters : List Char) :
    withDefaultNamespace written (String.ofList characters) =
      String.ofList (declaringDefault written.toList characters) := by
  rw [withDefaultNamespace, String.toList_ofList]

/-- The pieces of the other text are those of the first one, with one more
attribute in the first start tag. -/
def AddsToTop (item : WrittenAttribute) (text other : String) : Prop :=
  ∃ front name before after closed back, (∀ piece ∈ front, piece.isMisc = true) ∧
    textPieces? text = some (front ++ .startTag name (before ++ after) closed :: back) ∧
    textPieces? other = some (front ++ .startTag name (before ++ item :: after) closed :: back)

/-- A document is parsed by its pieces. -/
theorem Document.parse?_eq_bind (text : String) :
    Document.parse? text = (textPieces? text).bind Document.ofPieces? := by
  rw [textPieces?, Option.bind_assoc]
  rfl

/-- The top tag is looked for behind comments and instructions. -/
theorem behindTopName?_of_isMisc (read : readPiece? text = some (piece, after))
    (misc : piece.isMisc = true) : behindTopName? text = behindTopName? after := by
  rw [behindTopName?]
  split
  · next none =>
      rw [read] at none
      cases none
  · next found =>
      rw [read] at found
      cases found
      cases misc
  · next found =>
      rw [read] at found
      cases found
      exact if_pos misc

/-- The first start tag is the top tag. -/
theorem behindTopName?_of_startTag {name : WrittenName} {items : List WrittenAttribute}
    {closed : Bool} (read : readPiece? text = some (.startTag name items closed, after)) :
    behindTopName? text = some (text.tail.dropWhile isNameCharacter) := by
  rw [behindTopName?]
  split
  · next none =>
      rw [read] at none
      cases none
  · rfl
  · next other found =>
      rw [read] at found
      cases found
      exact absurd rfl (other _ _ _)

theorem exists_of_pieces?_cons {pieces : List Piece}
    (read : pieces? text = some (piece :: pieces)) :
    ∃ after, readPiece? text = some (piece, after) ∧ pieces? after = some pieces := by
  rw [pieces?.eq_def] at read
  split at read
  · cases read
  · split at read
    · cases read
    · next found =>
        obtain ⟨more, others, same⟩ := Option.map_eq_some_iff.mp read
        cases same
        exact ⟨_, found, others⟩

theorem head?_append_cons (front : List Char) (separator : Char) (first second : List Char) :
    (front ++ separator :: first).head? = (front ++ separator :: second).head? := by
  cases front with
  | nil => rfl
  | cons head more => rfl

section Pieces

variable {front back : List Piece} {name : WrittenName} {items : List WrittenAttribute}
  {closed : Bool}

/-- What stands before the first start tag, and the parts of that tag. -/
theorem exists_topTag (misc : ∀ piece ∈ front, piece.isMisc = true)
    (read : pieces? text = some (front ++ .startTag name items closed :: back)) :
    ∃ lead run rest after, text = lead ++ '<' :: (run ++ rest) ∧ behindTopName? text = some rest ∧
      name.IsReadFrom run ∧ Stops isNameCharacter rest ∧
      readAttributes? rest = some ((items, closed), after) ∧ pieces? after = some back ∧
      ∀ other, pieces? (lead ++ '<' :: other) = (pieces? ('<' :: other)).map (front ++ ·) := by
  induction front generalizing text with
  | nil =>
      obtain ⟨after, tag, more⟩ := exists_of_pieces?_cons read
      obtain ⟨run, rest, rfl, isRead, stops, attributes⟩ := exists_of_readPiece?_startTag tag
      refine ⟨[], run, rest, after, rfl, ?_, isRead, stops, attributes, more, fun other => ?_⟩
      · rw [behindTopName?_of_startTag tag, List.tail_cons,
          dropWhile_append isRead.characters stops]
      · exact congrFun Option.map_id.symm _
  | cons piece front ih =>
      obtain ⟨pieceMisc, frontMisc⟩ := List.forall_mem_cons.mp misc
      obtain ⟨after, first, more⟩ := exists_of_pieces?_cons read
      obtain ⟨used, rfl, again⟩ := exists_of_readPiece? first pieceMisc
      obtain ⟨lead, run, rest, last, rfl, behind, isRead, stops, attributes, others, replaced⟩ :=
        ih frontMisc more
      refine ⟨used ++ lead, run, rest, last, (List.append_assoc ..).symm, ?_, isRead, stops,
        attributes, others, fun other => ?_⟩
      · rw [behindTopName?_of_isMisc first pieceMisc, behind]
      · have next := again (lead ++ '<' :: other) (head?_append_cons ..)
        rw [List.append_assoc, pieces?_of_readPiece? next, replaced, Option.map_map]
        rfl

/-- An attribute that is written behind the name is the first one read. -/
theorem readPiece?_addAttribute {run raw after : List Char} {label : WrittenName} {value : String}
    (isRead : name.IsReadFrom run)
    (attributes : readAttributes? rest = some ((items, closed), after))
    (named : label.IsNamed) (quoted : IsQuoted '"' raw) (denotes : valueOf? raw = some value) :
    readPiece? ('<' :: (run ++ ' ' :: (label.run ++ '=' :: '"' :: (raw ++ '"' :: rest)))) =
      some (.startTag name (⟨label, value⟩ :: items) closed, after) := by
  have head := readAttribute?_quoted named quoted rest
  obtain ⟨first, more, begins, starts⟩ := named.run_eq_cons
  rw [begins, List.cons_append] at head ⊢
  apply readPiece?_of_isReadFrom isRead (stops_cons (by decide) _)
  exact readAttributes?_cons (isNameCharacter_of_isNameStart starts) head denotes attributes

end Pieces

/-! ### Behind the declaration -/

/-- A text that can be cut into pieces does not begin as a declaration does. -/
theorem afterStart?_of_pieces? {pieces : List Piece} (read : pieces? text = some pieces) :
    afterStart? ['<', '?', 'x', 'm', 'l', ' '] text = none := by
  rw [Option.eq_none_iff_forall_ne_some]
  intro opened starts
  have unread : readPiece? ('<' :: (['?', 'x', 'm', 'l', ' '] ++ opened)) = none := rfl
  have none := pieces?_of_readPiece?_none unread
  rw [afterStart?_eq_some_iff.mp starts] at read
  cases none.symm.trans read

/-- A byte order mark goes from a text, whatever follows it. -/
theorem withoutMark_cases (characters : List Char) :
    ∃ mark, characters = mark ++ withoutMark characters ∧ ∀ other,
      other.head? = (withoutMark characters).head? → withoutMark (mark ++ other) = other := by
  rw [withoutMark.eq_def]
  split
  · next rest => exact ⟨['\uFEFF'], rfl, fun other _ => rfl⟩
  · next noMark =>
      refine ⟨[], rfl, fun other sameHead => ?_⟩
      rw [List.nil_append, withoutMark.eq_def]
      split
      · next rest =>
          obtain ⟨more, same⟩ := List.head?_eq_some_iff.mp sameHead.symm
          exact absurd same (noMark more)
      · rfl

/-- The declaration of a document is read whatever the top tag is. -/
theorem exists_of_afterDeclaration? {lead tail : List Char}
    (read : afterDeclaration? text = some (lead ++ '<' :: tail)) :
    ∃ front, text = front ++ (lead ++ '<' :: tail) ∧
      ∀ other pieces, pieces? (lead ++ '<' :: other) = some pieces →
        afterDeclaration? (front ++ (lead ++ '<' :: other)) = some (lead ++ '<' :: other) := by
  cases starts : afterStart? ['<', '?', 'x', 'm', 'l', ' '] text with
  | none =>
      rw [afterDeclaration?_of_none starts] at read
      cases read
      exact ⟨[], rfl, fun other pieces cut =>
        afterDeclaration?_of_none (afterStart?_of_pieces? cut)⟩
  | some opened =>
      rw [afterStart?_eq_some_iff.mp starts] at read ⊢
      obtain ⟨used, rfl, -⟩ := skips_afterDeclaration? read
      obtain ⟨left, whole⟩ := bounded_afterDeclaration? (used ++ ['?', '>'] ++ lead)
      have reads (other : List Char) :
          afterDeclaration? (['<', '?', 'x', 'm', 'l', ' '] ++
            (used ++ (['?', '>'] ++ (lead ++ '<' :: other)))) =
              left.map (· ++ '<' :: other) := by
        simpa using whole other
      rw [reads, Option.map_eq_some_iff] at read
      obtain ⟨found, rfl, same⟩ := read
      rw [List.append_cancel_right same] at reads
      -- The declaration is read again as it ends before the bracket of the tag.
      refine ⟨['<', '?', 'x', 'm', 'l', ' '] ++ used ++ ['?', '>'], by simp, fun other _ _ => ?_⟩
      simpa using reads other

/-- The declaration is read as one more attribute of the top element, and the other
pieces of the text stay. -/
theorem addsToTop_withDefaultNamespace {text written uri : String} {front back : List Piece}
    {name : WrittenName} {items : List WrittenAttribute} {closed : Bool}
    (misc : ∀ piece ∈ front, piece.isMisc = true)
    (read : textPieces? text = some (front ++ .startTag name items closed :: back))
    (quoted : IsQuoted '"' written.toList) (denotes : valueOf? written.toList = some uri) :
    AddsToTop (defaultItem uri) text (withDefaultNamespace written text) := by
  refine ⟨front, name, [], items, closed, back, misc, read, ?_⟩
  obtain ⟨body, plain, cut⟩ := Option.bind_eq_some_iff.mp read
  obtain ⟨lead, run, rest, after, rfl, behind, isRead, -, attributes, others, replaced⟩ :=
    exists_topTag misc cut
  let declared := run ++ ' ' :: ("xmlns".toList ++ '=' :: '"' :: (written.toList ++ '"' :: rest))
  have tag : readPiece? ('<' :: declared) =
      some (.startTag name (defaultItem uri :: items) closed, after) :=
    readPiece?_addAttribute isRead attributes (isNamed_defaultItem uri) quoted denotes
  have pieces := replaced declared
  rw [pieces?_of_readPiece? tag, others, Option.map_some, Option.map_some] at pieces
  obtain ⟨mark, marked, unmarked⟩ := withoutMark_cases text.toList
  obtain ⟨start, declaration, again⟩ := exists_of_afterDeclaration? plain
  have whole : declaringDefault written.toList text.toList =
      mark ++ (start ++ (lead ++ '<' :: declared)) := by
    have characters : text.toList = mark ++ start ++ lead ++ '<' :: run ++ rest :=
      marked.trans (by simp [declaration])
    have taken : text.toList.take (text.toList.length - rest.length) =
        mark ++ start ++ lead ++ '<' :: run := by
      rw [characters, List.length_append, Nat.add_sub_cancel, List.take_left]
    unfold declaringDefault
    simp only [plain, Option.bind_some, behind]
    rw [taken]
    simp [declared]
  unfold textPieces?
  rw [withDefaultNamespace, String.toList_ofList, whole, unmarked, again _ _ pieces,
    Option.bind_some, pieces]
  · rfl
  · rw [declaration, ← List.append_assoc, ← List.append_assoc]
    exact head?_append_cons ..

end IssueSync.Xml
