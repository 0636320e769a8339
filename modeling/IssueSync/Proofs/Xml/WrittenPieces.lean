import IssueSync.Proofs.Xml.StartTag

/-! # Single pieces that were written

What is read of a written name, attribute or tag ends where its written form
ends, because what follows cannot be a part of it (`Stops`, `Opens`). So every
written piece is read as it is, and the text behind it is left
(`readPiece?_startTag`, `readPiece?_endTag`, `readPiece?_characters`,
`readPiece?_comment`, `readPiece?_instruction`). The one that cannot be read is a
processing instruction with the target `xml` and a value (`IsMisread`), which looks
like the declaration of a document.
-/

namespace IssueSync.Xml

open Text (splitFirst? occursIn afterStart? afterStart?_eq_some_iff afterStart?_eq_none_iff Stops
  stops_cons takeWhile_append dropWhile_append dropWhile_of_stops)

/-- The text is at its end or goes on with an opening bracket. -/
def Opens (text : List Char) : Prop :=
  ∀ first, text.head? = some first → first = '<'

variable {rest : List Char}

/-! ### Names -/

/-- A name as it is written. -/
def WrittenName.run (name : WrittenName) : List Char :=
  if name.label = [] then name.localName else name.label ++ ':' :: name.localName

/-- Names have no colon, so that one can part them. -/
theorem IsName.colon_not_mem {characters : List Char} (named : IsName characters) :
    ':' ∉ characters := by
  intro member
  have part := named.2 _ member
  revert part
  decide

/-- What may stand in a name may stand in one with a label. -/
theorem isNameCharacter_of_isNamePart {character : Char} (part : isNamePart character = true) :
    isNameCharacter character = true := by
  rw [isNameCharacter, part, Bool.or_true]

/-- What may begin a name may stand in one with a label. -/
theorem isNameCharacter_of_isNameStart {character : Char} (starts : isNameStart character = true) :
    isNameCharacter character = true := by
  apply isNameCharacter_of_isNamePart
  rw [isNamePart, starts, Bool.true_or]

namespace WrittenName.IsNamed

variable {name : WrittenName}

/-- A written name has only such characters. -/
theorem isNameCharacter_of_mem (named : name.IsNamed) {character : Char}
    (member : character ∈ name.run) : isNameCharacter character = true := by
  rw [run] at member
  split at member
  · exact isNameCharacter_of_isNamePart (named.2.2 _ member)
  · next labelled =>
      rcases List.mem_append.mp member with inLabel | later
      · exact isNameCharacter_of_isNamePart ((named.1.resolve_left labelled).2 _ inLabel)
      · rcases List.mem_cons.mp later with rfl | inLocal
        · decide
        · exact isNameCharacter_of_isNamePart (named.2.2 _ inLocal)

/-- A written name begins as a name must. -/
theorem run_eq_cons (named : name.IsNamed) :
    ∃ first more, name.run = first :: more ∧ isNameStart first = true := by
  have begins : ∀ {characters : List Char}, IsName characters → ∀ rest,
      ∃ first more, characters ++ rest = first :: more ∧ isNameStart first = true := by
    intro characters isName rest
    cases characters with
    | nil => cases isName.1
    | cons first more => exact ⟨first, more ++ rest, rfl, isName.1⟩
  rw [run]
  split
  · simpa using begins named.2 []
  · next labelled => exact begins (named.1.resolve_left labelled) _

/-- A written name is read back from its characters. -/
theorem ofRun?_run (named : name.IsNamed) : ofRun? name.run = some name := by
  obtain ⟨labelNamed, localNamed⟩ := named
  obtain ⟨label, localName⟩ := name
  have localClear := localNamed.colon_not_mem
  have starts := localNamed.1
  dsimp only at localClear starts labelNamed
  rcases labelNamed with rfl | isName
  · have whole : splitFirst? [':'] localName = none := by
      rw [Option.eq_none_iff_forall_ne_some]
      rintro ⟨before, after⟩ found
      obtain ⟨whole, -⟩ := Text.splitFirst?_singleton_iff.mp found
      exact localClear (whole ▸ by simp)
    simp [ofRun?, run, whole, starts, localClear]
  · have filled : label ≠ [] := by
      rintro rfl
      cases isName.1
    have labelStarts := isName.1
    have divided : splitFirst? [':'] (label ++ ':' :: localName) = some (label, localName) :=
      Text.splitFirst?_singleton_iff.mpr ⟨rfl, isName.colon_not_mem⟩
    simp [ofRun?, run, filled, divided, labelStarts, starts, localClear]

end WrittenName.IsNamed

/-- A written name is read back up to where it ends. -/
theorem readName?_run {name : WrittenName} (named : name.IsNamed)
    (stops : Stops isNameCharacter rest) : readName? (name.run ++ rest) = some (name, rest) := by
  rw [readName?, takeWhile_append (fun _ => named.isNameCharacter_of_mem) stops,
    dropWhile_append (fun _ => named.isNameCharacter_of_mem) stops, named.ofRun?_run]
  rfl

/-! ### Start tags -/

/-- An attribute or a declaration as it is written. -/
def WrittenAttribute.markup (item : WrittenAttribute) : List Char :=
  ' ' :: (item.name.run ++ '=' :: '"' :: ((escape .insideQuotes item.value).toList ++ ['"']))

/-- A name, an equals sign and a value between quotes are read as an attribute. -/
theorem readAttribute?_quoted {name : WrittenName} {raw : List Char} (named : name.IsNamed)
    (quoted : IsQuoted '"' raw) (rest : List Char) :
    readAttribute? (name.run ++ '=' :: '"' :: (raw ++ '"' :: rest)) = some ((name, raw), rest) := by
  apply readAttribute?_eq_some_iff.mpr
  refine ⟨_, '"' :: (raw ++ '"' :: rest), '"', readName?_run named (stops_cons (by decide) _),
    ?_, ?_, quoted⟩
  · exact dropWhile_of_stops (stops_cons (by decide) _)
  · exact dropWhile_of_stops (stops_cons (by decide) _)

/-- An escaped value may stand in quotes. -/
theorem isQuoted_escape {value : String} (allowed : AllXml value.toList) :
    IsQuoted '"' (escape .insideQuotes value).toList where
  kind := .inl rfl
  characters := allXml_escape allowed
  quoteAbsent := quote_not_mem_escape value
  bracketAbsent := fun member => (mem_escape member).1 rfl

/-- A character of a name neither is white space nor ends a tag. -/
theorem isNameCharacter_ne {character : Char} (part : isNameCharacter character = true) :
    isSpace character = false ∧ character ≠ '>' ∧ character ≠ '/' ∧ character ≠ '!' ∧
      character ≠ '?' := by
  have none : [' ', '\t', '\n', '\r', '>', '/', '!', '?'].all (!isNameCharacter ·) = true := by
    decide
  have refused : ∀ other ∈ [' ', '\t', '\n', '\r', '>', '/', '!', '?'], character ≠ other := by
    rintro other listed rfl
    have notPart := List.all_eq_true.mp none character listed
    rw [part] at notPart
    cases notPart
  simp only [List.mem_cons, List.not_mem_nil, or_false, forall_eq_or_imp, forall_eq] at refused
  obtain ⟨space, tab, lineFeed, carriage, others⟩ := refused
  exact ⟨by simp [isSpace, space, tab, lineFeed, carriage], others⟩

/-- The end of a start tag. -/
def tagEnd (closed : Bool) : List Char :=
  if closed then ['/', '>'] else ['>']

/-- Where the tag ends there are no more attributes. -/
theorem readAttributes?_tagEnd (closed : Bool) (rest : List Char) :
    readAttributes? (tagEnd closed ++ rest) = some (([], closed), rest) := by
  cases closed with
  | true =>
      have stops : Stops isSpace ('/' :: '>' :: rest) := stops_cons (by decide) _
      rw [tagEnd, if_pos rfl, List.cons_append, List.singleton_append, readAttributes?,
        dropWhile_of_stops stops]
      rfl
  | false =>
      have stops : Stops isSpace ('>' :: rest) := stops_cons (by decide) _
      rw [tagEnd, if_neg Bool.false_ne_true, List.singleton_append, readAttributes?,
        dropWhile_of_stops stops]
      rfl

/-- One attribute is read, and then the others. -/
theorem readAttributes?_cons {body after : List Char} {first : Char} {name : WrittenName}
    {raw : List Char} {value : String} {others : List WrittenAttribute} {closed : Bool}
    (part : isNameCharacter first = true)
    (head : readAttribute? (first :: body) = some ((name, raw), after))
    (headValue : valueOf? raw = some value)
    (more : readAttributes? after = some ((others, closed), rest)) :
    readAttributes? (' ' :: first :: body) = some ((⟨name, value⟩ :: others, closed), rest) := by
  obtain ⟨noSpace, notClosing, notSlash, -⟩ := isNameCharacter_ne part
  have drop : (' ' :: first :: body).dropWhile isSpace = first :: body := by
    rw [List.dropWhile_cons, if_pos (by decide), dropWhile_of_stops (stops_cons noSpace body)]
  rw [readAttributes?, drop]
  split
  · next same => exact absurd (List.cons.inj same).1 notClosing
  · next same => exact absurd (List.cons.inj same).1 notSlash
  · rw [List.head?_cons, Option.any_some, if_pos (by decide)]
    split
    · next none =>
        rw [head] at none
        cases none
    · next found =>
        rw [head] at found
        cases found
        rw [headValue, more]

/-- The attributes of a tag are read one by one. -/
theorem readAttributes?_markup {items : List WrittenAttribute} (sound : ItemsSound items)
    (closed : Bool) (rest : List Char) :
    readAttributes? (items.flatMap WrittenAttribute.markup ++ (tagEnd closed ++ rest)) =
      some ((items.map WrittenAttribute.again, closed), rest) := by
  induction items with
  | nil => exact readAttributes?_tagEnd closed rest
  | cons item others ih =>
      obtain ⟨⟨named, allowed⟩, othersSound⟩ := List.forall_mem_cons.mp sound
      have more := ih othersSound
      have head := readAttribute?_quoted named (isQuoted_escape allowed)
        (others.flatMap WrittenAttribute.markup ++ (tagEnd closed ++ rest))
      obtain ⟨first, body, begins, starts⟩ := named.run_eq_cons
      rw [begins, List.cons_append] at head
      rw [List.flatMap_cons, WrittenAttribute.markup, begins]
      simp only [List.cons_append, List.append_assoc, List.nil_append]
      exact readAttributes?_cons (isNameCharacter_of_isNameStart starts) head
        (valueOf?_escape item.value) more

/-! ### Single pieces -/

/-- The pieces of a text are the first one and those of what follows it. -/
theorem pieces?_of_readPiece? {text after : List Char} {piece : Piece}
    (read : readPiece? text = some (piece, after)) :
    pieces? text = (pieces? after).map (piece :: ·) := by
  cases text with
  | nil => cases read
  | cons first tail =>
      rw [pieces?]
      split
      · next none =>
          rw [read] at none
          cases none
      · next found =>
          rw [read] at found
          cases found
          rfl

/-- A text whose first piece cannot be read is none. -/
theorem pieces?_of_readPiece?_none {first : Char} {tail : List Char}
    (unread : readPiece? (first :: tail) = none) : pieces? (first :: tail) = none := by
  rw [pieces?]
  split
  · rfl
  · next found =>
      rw [unread] at found
      cases found

theorem afterStart?_of_ne {first second : Char} (different : first ≠ second)
    (start more : List Char) : afterStart? (first :: start) (second :: more) = none := by
  rw [afterStart?_eq_none_iff]
  intro starts
  exact different (List.cons_prefix_cons.mp starts).1

/-- What begins with a name behind its opening bracket is a start tag. -/
theorem readMarkup?_of_isNameCharacter {first : Char} (part : isNameCharacter first = true)
    (more : List Char) : readMarkup? (first :: more) = readStartTag? (first :: more) := by
  obtain ⟨-, -, notSlash, notComment, notInstruction⟩ := isNameCharacter_ne part
  rw [readMarkup?, afterStart?_of_ne notComment.symm, afterStart?_of_ne notComment.symm]
  · intro body same
    exact notInstruction (List.cons.inj same).1
  · intro body same
    exact notSlash (List.cons.inj same).1

/-- A start tag is read back with its attributes as they are read. -/
theorem readPiece?_startTag {tag : WrittenName} {items : List WrittenAttribute}
    (named : tag.IsNamed) (sound : ItemsSound items) (closed : Bool) (rest : List Char) :
    readPiece? ('<' :: (tag.run ++ (items.flatMap WrittenAttribute.markup ++
        (tagEnd closed ++ rest)))) =
      some (.startTag tag (items.map WrittenAttribute.again) closed, rest) := by
  have stops : Stops isNameCharacter
      (items.flatMap WrittenAttribute.markup ++ (tagEnd closed ++ rest)) := by
    cases items with
    | nil =>
        cases closed with
        | true => exact stops_cons (by decide) _
        | false => exact stops_cons (by decide) _
    | cons item others => exact stops_cons (by decide) _
  have name := readName?_run named stops
  obtain ⟨first, more, begins, starts⟩ := named.run_eq_cons
  have part := isNameCharacter_of_isNameStart starts
  rw [begins, List.cons_append] at name ⊢
  rw [readPiece?, if_pos rfl, readMarkup?_of_isNameCharacter part, readStartTag?, name]
  dsimp only
  rw [readAttributes?_markup sound]
  rfl

/-- An end tag is read back. -/
theorem readPiece?_endTag {tag : WrittenName} (named : tag.IsNamed) (rest : List Char) :
    readPiece? ('<' :: '/' :: (tag.run ++ '>' :: rest)) = some (.endTag tag, rest) := by
  have closing : Stops isSpace ('>' :: rest) := stops_cons (by decide) _
  change readEndTag? (tag.run ++ '>' :: rest) = _
  rw [readEndTag?, readName?_run named (stops_cons (by decide) _)]
  dsimp only
  rw [dropWhile_of_stops closing]
  rfl

/-- A comment is read back. -/
theorem readPiece?_comment {content : String} (sound : IsComment content.toList)
    (rest : List Char) :
    readPiece? ('<' :: '!' :: '-' :: '-' :: (content.toList ++ ['-', '-', '>'] ++ rest)) =
      some (.comment content, rest) := by
  obtain ⟨characters, apart, ending, ends⟩ := sound
  have allowed : content.toList.all isXmlChar = true := List.all_eq_true.mpr characters
  change readComment? (content.toList ++ ['-', '-', '>'] ++ rest) = _
  rw [readComment?, ends rest]
  simp [allowed, apart, ending]

/-- Escaped text is read back up to the next tag. -/
theorem readPiece?_characters {content : String} (filled : content ≠ "")
    (allowed : AllXml content.toList) (opens : Opens rest) :
    readPiece? ((escape .betweenTags content).toList ++ rest) =
      some (.characters (escape .betweenTags content).toList, rest) := by
  have inside : ∀ character ∈ (escape .betweenTags content).toList,
      (character != '<') = true := fun character member =>
    bne_iff_ne.mpr (mem_escape member).1
  have stops : Stops (fun character => character != '<') rest := by
    intro first same
    rw [opens first same]
    rfl
  have noSectionEnd : occursIn [']', ']', '>'] (escape .betweenTags content).toList = false := by
    rw [occursIn, Option.isSome_eq_false_iff, Option.isNone_iff_eq_none,
      Option.eq_none_iff_forall_ne_some]
    rintro ⟨before, after⟩ found
    refine bracket_not_mem_escape .betweenTags content ?_
    rw [Text.eq_of_splitFirst? found]
    simp
  have characters : (escape .betweenTags content).toList.all isXmlChar = true :=
    List.all_eq_true.mpr (allXml_escape allowed)
  obtain ⟨first, more, begins⟩ := List.exists_cons_of_ne_nil (escape_ne_nil filled)
  have notOpening : first ≠ '<' := by
    have member : first ∈ (escape .betweenTags content).toList := begins ▸ List.mem_cons_self
    exact (mem_escape member).1
  have read : readCharacters? ((escape .betweenTags content).toList ++ rest) =
      some (.characters (escape .betweenTags content).toList, rest) := by
    rw [readCharacters?, takeWhile_append inside stops, dropWhile_append inside stops, characters,
      noSectionEnd]
    rfl
  rw [begins, List.cons_append] at read ⊢
  rw [readPiece?, if_neg notOpening, read]

/-! ### Processing instructions -/

/-- The markup of the processing instruction begins as the declaration of a
document does. -/
def IsMisread (target : String) (value : Option String) : Prop :=
  target = "xml" ∧ value ≠ none

instance (target : String) (value : Option String) : Decidable (IsMisread target value) :=
  inferInstanceAs (Decidable (_ ∧ _))

/-- What is written between the target of a processing instruction and its end. -/
def instructionRest : Option String → List Char
  | none => []
  | some value => ' ' :: value.toList

/-- Whether a target and the character behind it begin a declaration. -/
theorem afterStart?_target {target : List Char} {next : Char}
    (characters : ∀ character ∈ target, isNameCharacter character = true)
    (other : isNameCharacter next = false) (more : List Char) :
    (afterStart? ['x', 'm', 'l', ' '] (target ++ next :: more)).isSome = true ↔
      target = ['x', 'm', 'l'] ∧ next = ' ' := by
  rw [Option.isSome_iff_exists]
  constructor
  · rintro ⟨body, found⟩
    have whole : target ++ next :: more = ['x', 'm', 'l', ' '] ++ body :=
      afterStart?_eq_some_iff.mp found
    change target ++ next :: more = ['x', 'm', 'l'] ++ ' ' :: body at whole
    have xml : ∀ character ∈ ['x', 'm', 'l'], isNameCharacter character = true :=
      List.all_eq_true.mp (by decide)
    have front := congrArg (List.takeWhile isNameCharacter) whole
    have back := congrArg (List.dropWhile isNameCharacter) whole
    rw [takeWhile_append characters (stops_cons other more),
      takeWhile_append xml (stops_cons (by decide) body)] at front
    rw [dropWhile_append characters (stops_cons other more),
      dropWhile_append xml (stops_cons (by decide) body)] at back
    exact ⟨front, (List.cons.inj back).1⟩
  · rintro ⟨rfl, rfl⟩
    exact ⟨more, afterStart?_eq_some_iff.mpr rfl⟩

variable {target : String}

/-- An instruction is taken for the declaration exactly when it is misread. -/
theorem afterStart?_instruction (sound : IsTarget target.toList) (value : Option String)
    (rest : List Char) :
    (afterStart? ['x', 'm', 'l', ' ']
        (target.toList ++ (instructionRest value ++ '?' :: '>' :: rest))).isSome = true ↔
      IsMisread target value := by
  cases value with
  | none =>
      rw [instructionRest, List.nil_append, afterStart?_target sound.characters (by decide)]
      simp [IsMisread]
  | some value =>
      have same : target.toList = ['x', 'm', 'l'] ↔ target = "xml" := by
        rw [← String.toList_inj]
        rfl
      rw [instructionRest, List.cons_append, afterStart?_target sound.characters (by decide), same]
      simp [IsMisread]

/-- Behind the target, the value is read up to its end. -/
theorem splitFirst?_instructionRest {value : Option String}
    (sound : ∀ content, value = some content → IsInstructionValue content.toList)
    (rest : List Char) :
    splitFirst? ['?', '>'] ((instructionRest value ++ '?' :: '>' :: rest).dropWhile isSpace) =
      some ((value.getD "").toList, rest) := by
  cases value with
  | none =>
      have noSpace : Stops isSpace ('?' :: '>' :: rest) := stops_cons (by decide) _
      rw [instructionRest, List.nil_append, dropWhile_of_stops noSpace]
      exact endsAt_nil ['?', '>'] rest
  | some value =>
      obtain ⟨-, filled, begins, ends⟩ := sound value rfl
      have stops : Stops isSpace (value.toList ++ ['?', '>'] ++ rest) := by
        obtain ⟨first, more, whole⟩ := List.exists_cons_of_ne_nil filled
        rw [whole]
        exact stops_cons (begins first (by rw [whole]; rfl)) _
      have drop : (' ' :: (value.toList ++ ['?', '>'] ++ rest)).dropWhile isSpace =
          value.toList ++ ['?', '>'] ++ rest := by
        rw [List.dropWhile_cons, if_pos (by decide), dropWhile_of_stops stops]
      have whole : instructionRest (some value) ++ '?' :: '>' :: rest =
          ' ' :: (value.toList ++ ['?', '>'] ++ rest) := by
        simp [instructionRest]
      rw [whole, drop]
      exact ends rest

/-- A processing instruction is read as it is unless it is misread. -/
theorem readPiece?_instruction (sound : IsTarget target.toList) {value : Option String}
    (valueSound : ∀ content, value = some content → IsInstructionValue content.toList)
    (rest : List Char) :
    readPiece? ('<' :: '?' :: (target.toList ++ (instructionRest value ++ '?' :: '>' :: rest))) =
      if IsMisread target value then none else some (.instruction target value, rest) := by
  have declaration := afterStart?_instruction sound value rest
  have stops : Stops isNameCharacter (instructionRest value ++ '?' :: '>' :: rest) := by
    cases value with
    | none => exact stops_cons (by decide) _
    | some value => exact stops_cons (by decide) _
  change readInstruction? (target.toList ++ (instructionRest value ++ '?' :: '>' :: rest)) = _
  rw [readInstruction?, takeWhile_append sound.characters stops,
    dropWhile_append sound.characters stops, splitFirst?_instructionRest valueSound rest]
  by_cases misread : IsMisread target value
  · rw [declaration.mpr misread, Bool.true_or, if_pos rfl, if_pos misread]
  · have readable : (Text.afterStart? ['x', 'm', 'l', ' ']
        (target.toList ++ (instructionRest value ++ '?' :: '>' :: rest))).isSome = false := by
      rw [← Bool.not_eq_true, declaration]
      exact misread
    rw [readable, sound.start, if_neg misread]
    cases value with
    | none => simp
    | some value =>
        obtain ⟨allowed, filled, -, -⟩ := valueSound value rfl
        have characters : value.toList.all isXmlChar = true := List.all_eq_true.mpr allowed
        simpa [characters] using filled

end IssueSync.Xml
