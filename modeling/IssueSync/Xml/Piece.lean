import IssueSync.Text.Search
import IssueSync.Xml.Reference

/-! # The pieces of a document

A document is cut into tags, comments, processing instructions, `CDATA`
sections and the character data between them. Each piece is read from the
front of the text and leaves a shorter rest (`readPiece?_shorter`), so a text
has finitely many pieces. Namespaces and the nesting of tags are not looked at
here.
-/

namespace IssueSync.Xml

open Text

/-- A name as written; the label is what stands before the colon, and empty
without one. -/
structure WrittenName where
  label : List Char
  localName : List Char
  deriving DecidableEq, Repr

/-- An attribute as written, with the text its value stands for. -/
structure WrittenAttribute where
  name : WrittenName
  value : String
  deriving DecidableEq, Repr

/-- A piece of a document. -/
inductive Piece where
  | startTag (name : WrittenName) (attributes : List WrittenAttribute) (closed : Bool)
  | endTag (name : WrittenName)
  | characters (raw : List Char)
  | sectionData (content : String)
  | comment (content : String)
  | instruction (target : String) (value : Option String)
  deriving Repr

/-- Whether a part of a name begins as a name must. -/
def startsName : List Char → Bool
  | [] => false
  | first :: _ => isNameStart first

/-- A run of name characters as a name: at most one colon, a part after it, and
each part begins as a name must. -/
def WrittenName.ofRun? (run : List Char) : Option WrittenName :=
  let name : WrittenName :=
    match splitFirst? [':'] run with
    | some (label, localName) => ⟨label, localName⟩
    | none => ⟨[], run⟩
  if (name.label.isEmpty || startsName name.label) && startsName name.localName &&
      !name.localName.contains ':' then some name
  else none

/-- The name that a text begins with. It goes as far as there are characters of names. -/
def readName? (text : List Char) : Option (WrittenName × List Char) :=
  (WrittenName.ofRun? (text.takeWhile isNameCharacter)).map fun name =>
    (name, text.dropWhile isNameCharacter)

/-- An attribute with its value still as written, at the front of the text. The
value stands between two quotes of one kind and holds no opening bracket. -/
def readAttribute? (text : List Char) : Option ((WrittenName × List Char) × List Char) :=
  match readName? text with
  | none => none
  | some (name, afterName) =>
      match afterName.dropWhile isSpace with
      | '=' :: afterEquals =>
          match afterEquals.dropWhile isSpace with
          | [] => none
          | quote :: quoted =>
              let raw := quoted.takeWhile fun character => character != quote && character != '<'
              let rest := quoted.dropWhile fun character => character != quote && character != '<'
              if (quote == '"' || quote == '\'') && raw.all isXmlChar &&
                  rest.head? == some quote then some ((name, raw), rest.tail)
              else none
      | _ => none

theorem length_dropWhile_le (p : Char → Bool) (text : List Char) :
    (text.dropWhile p).length ≤ text.length :=
  (List.dropWhile_sublist p).length_le

theorem readName?_shorter {text rest : List Char} {name : WrittenName}
    (read : readName? text = some (name, rest)) : rest.length < text.length := by
  have lengths := congrArg List.length
    (List.takeWhile_append_dropWhile (p := isNameCharacter) (l := text))
  rw [List.length_append] at lengths
  obtain ⟨written, found, same⟩ := Option.map_eq_some_iff.mp read
  obtain ⟨-, rfl⟩ := Prod.mk.inj same
  have nonempty : (text.takeWhile isNameCharacter).length ≠ 0 := by
    intro none
    rw [List.length_eq_zero_iff.mp none] at found
    cases found
  omega

theorem readAttribute?_shorter {text rest : List Char} {pair : WrittenName × List Char}
    (read : readAttribute? text = some (pair, rest)) : rest.length < text.length := by
  simp only [readAttribute?] at read
  split at read
  · cases read
  · next name afterName nameRead =>
      have first := readName?_shorter nameRead
      split at read
      · next afterEquals spaces =>
          have second := length_dropWhile_le isSpace afterName
          rw [spaces, List.length_cons] at second
          split at read
          · cases read
          · next quote quoted more =>
              have third := length_dropWhile_le isSpace afterEquals
              rw [more, List.length_cons] at third
              split at read
              · obtain ⟨-, rfl⟩ := Prod.mk.inj (Option.some.inj read)
                have last := length_dropWhile_le
                  (fun character => character != quote && character != '<') quoted
                rw [List.length_tail]
                omega
              · cases read
      · cases read

/-- The attributes of a start tag, from behind its name to its end, and whether
the tag closes itself. Every attribute has white space before it. -/
def readAttributes? (text : List Char) : Option ((List WrittenAttribute × Bool) × List Char) :=
  match text.dropWhile isSpace with
  | '>' :: rest => some (([], false), rest)
  | '/' :: '>' :: rest => some (([], true), rest)
  | _ =>
      if text.head?.any isSpace then
        match _read : readAttribute? (text.dropWhile isSpace) with
        | none => none
        | some ((name, raw), rest) =>
            match valueOf? raw, readAttributes? rest with
            | some value, some ((attributes, closed), after) =>
                some ((⟨name, value⟩ :: attributes, closed), after)
            | _, _ => none
      else none
termination_by text.length
decreasing_by
  have := readAttribute?_shorter _read
  have := length_dropWhile_le isSpace text
  omega

/-- A start tag, from behind its opening bracket. -/
def readStartTag? (text : List Char) : Option (Piece × List Char) :=
  match readName? text with
  | none => none
  | some (name, afterName) =>
      (readAttributes? afterName).map fun ((attributes, closed), rest) =>
        (.startTag name attributes closed, rest)

/-- An end tag, from behind its slash. -/
def readEndTag? (text : List Char) : Option (Piece × List Char) :=
  match readName? text with
  | none => none
  | some (name, afterName) =>
      match afterName.dropWhile isSpace with
      | '>' :: rest => some (.endTag name, rest)
      | _ => none

/-- A comment, from behind its opening. It holds no two hyphens in a row and
ends in none. -/
def readComment? (text : List Char) : Option (Piece × List Char) :=
  match splitFirst? ['-', '-', '>'] text with
  | none => none
  | some (content, rest) =>
      if content.all isXmlChar && !occursIn ['-', '-'] content &&
          content.getLast? != some '-' then some (.comment (String.ofList content), rest)
      else none

/-- A `CDATA` section, from behind its opening. -/
def readSection? (text : List Char) : Option (Piece × List Char) :=
  match splitFirst? [']', ']', '>'] text with
  | none => none
  | some (content, rest) =>
      if content.all isXmlChar then some (.sectionData (sectionText content), rest) else none

/-- A processing instruction, from behind its opening. The target `xml` with a
space after it belongs to the declaration of the document and is refused. -/
def readInstruction? (text : List Char) : Option (Piece × List Char) :=
  let target := text.takeWhile isNameCharacter
  if (afterStart? ['x', 'm', 'l', ' '] text).isSome || !target.head?.any (fun first =>
      first == ':' || isNameStart first) then none
  else
    match splitFirst? ['?', '>'] ((text.dropWhile isNameCharacter).dropWhile isSpace) with
    | none => none
    | some (value, rest) =>
        if value.all isXmlChar then
          some (.instruction (String.ofList target)
            (if value.isEmpty then none else some (String.ofList value)), rest)
        else none

/-- The markup behind a bracket, which its first characters tell apart. -/
def readMarkup? (text : List Char) : Option (Piece × List Char) :=
  match afterStart? ['!', '-', '-'] text with
  | some body => readComment? body
  | none =>
      match afterStart? ['!', '[', 'C', 'D', 'A', 'T', 'A', '['] text with
      | some body => readSection? body
      | none =>
          match text with
          | '?' :: body => readInstruction? body
          | '/' :: body => readEndTag? body
          | body => readStartTag? body

/-- The character data at the front of the text, up to the next opening
bracket. The end of a `CDATA` section does not occur in it. -/
def readCharacters? (text : List Char) : Option (Piece × List Char) :=
  let raw := text.takeWhile fun character => character != '<'
  if raw.all isXmlChar && !occursIn [']', ']', '>'] raw then
    some (.characters raw, text.dropWhile fun character => character != '<')
  else none

/-- The piece that a text begins with. -/
def readPiece? : List Char → Option (Piece × List Char)
  | [] => none
  | character :: rest =>
      if character = '<' then readMarkup? rest else readCharacters? (character :: rest)

theorem readAttributes?_shorter {text rest : List Char} {read : List WrittenAttribute × Bool}
    (found : readAttributes? text = some (read, rest)) : rest.length < text.length := by
  have spaces := length_dropWhile_le isSpace text
  fun_induction readAttributes? text generalizing read rest with
  | case1 text tail drop =>
      obtain ⟨-, rfl⟩ := Prod.mk.inj (Option.some.inj found)
      rw [drop, List.length_cons] at spaces
      omega
  | case2 text tail drop =>
      obtain ⟨-, rfl⟩ := Prod.mk.inj (Option.some.inj found)
      rw [drop, List.length_cons, List.length_cons] at spaces
      omega
  | case3 => cases found
  | case4 text _ name raw tail first value attributes closed after more _ _ _ ih =>
      obtain ⟨-, rfl⟩ := Prod.mk.inj (Option.some.inj found)
      have head := readAttribute?_shorter first
      have last := ih more (length_dropWhile_le _ _)
      omega
  | case5 => cases found
  | case6 => cases found

theorem readStartTag?_shorter {text rest : List Char} {piece : Piece}
    (found : readStartTag? text = some (piece, rest)) : rest.length < text.length := by
  simp only [readStartTag?] at found
  split at found
  · cases found
  · next name afterName read =>
      obtain ⟨⟨tags, tail⟩, more, same⟩ := Option.map_eq_some_iff.mp found
      obtain ⟨-, rfl⟩ := Prod.mk.inj same
      have := readName?_shorter read
      have := readAttributes?_shorter more
      change tail.length < text.length
      omega

theorem readEndTag?_shorter {text rest : List Char} {piece : Piece}
    (found : readEndTag? text = some (piece, rest)) : rest.length < text.length := by
  simp only [readEndTag?] at found
  split at found
  · cases found
  · next name afterName read =>
      split at found
      · next tail drop =>
          obtain ⟨-, rfl⟩ := Prod.mk.inj (Option.some.inj found)
          have := readName?_shorter read
          have := length_dropWhile_le isSpace afterName
          rw [drop, List.length_cons] at this
          omega
      · cases found

theorem readComment?_shorter {text rest : List Char} {piece : Piece}
    (found : readComment? text = some (piece, rest)) : rest.length ≤ text.length := by
  simp only [readComment?] at found
  split at found
  · cases found
  · next content tail closed =>
      split at found
      · obtain ⟨-, rfl⟩ := Prod.mk.inj (Option.some.inj found)
        exact splitFirst?_shorter closed
      · cases found

theorem readSection?_shorter {text rest : List Char} {piece : Piece}
    (found : readSection? text = some (piece, rest)) : rest.length ≤ text.length := by
  simp only [readSection?] at found
  split at found
  · cases found
  · next content tail closed =>
      split at found
      · obtain ⟨-, rfl⟩ := Prod.mk.inj (Option.some.inj found)
        exact splitFirst?_shorter closed
      · cases found

theorem readInstruction?_shorter {text rest : List Char} {piece : Piece}
    (found : readInstruction? text = some (piece, rest)) : rest.length ≤ text.length := by
  simp only [readInstruction?] at found
  split at found
  · cases found
  · split at found
    · cases found
    · next value tail closed =>
        split at found
        · obtain ⟨-, rfl⟩ := Prod.mk.inj (Option.some.inj found)
          exact Nat.le_trans (splitFirst?_shorter closed)
            (Nat.le_trans (length_dropWhile_le _ _) (length_dropWhile_le _ _))
        · cases found

theorem readMarkup?_shorter {text rest : List Char} {piece : Piece}
    (found : readMarkup? text = some (piece, rest)) : rest.length ≤ text.length := by
  simp only [readMarkup?] at found
  split at found
  · next opened =>
      exact Nat.le_trans (readComment?_shorter found) (afterStart?_shorter opened)
  · split at found
    · next opened =>
        exact Nat.le_trans (readSection?_shorter found) (afterStart?_shorter opened)
    · split at found
      · exact Nat.le_succ_of_le (readInstruction?_shorter found)
      · exact Nat.le_succ_of_le (Nat.le_of_lt (readEndTag?_shorter found))
      · exact Nat.le_of_lt (readStartTag?_shorter found)

/-- A piece takes at least one character. -/
theorem readPiece?_shorter {text rest : List Char} {piece : Piece}
    (found : readPiece? text = some (piece, rest)) : rest.length < text.length := by
  cases text with
  | nil => cases found
  | cons character tail =>
      simp only [readPiece?] at found
      split at found
      · have := readMarkup?_shorter found
        rw [List.length_cons]
        omega
      · next notOpening =>
          simp only [readCharacters?] at found
          split at found
          · obtain ⟨-, rfl⟩ := Prod.mk.inj (Option.some.inj found)
            rw [List.dropWhile_cons, if_pos (by simpa using notOpening), List.length_cons]
            exact Nat.lt_succ_of_le (length_dropWhile_le _ _)
          · cases found

/-- The pieces that a text falls into, up to its end. -/
def pieces? (text : List Char) : Option (List Piece) :=
  match text with
  | [] => some []
  | character :: rest =>
      match _read : readPiece? (character :: rest) with
      | none => none
      | some (piece, after) => (pieces? after).map (piece :: ·)
termination_by text.length
decreasing_by exact readPiece?_shorter _read

/-- The white space after a part of the declaration; it may be missing only at
the end. -/
def afterDeclarationSpace? (text : List Char) : Option (List Char) :=
  if text.head?.any isSpace then some (text.dropWhile isSpace)
  else if text.isEmpty || (afterStart? ['?', '>'] text).isSome then some text
  else none

/-- The text after an attribute of the declaration whose name begins with
`keyword`, and the white space behind it; unchanged without such an attribute. -/
def afterDeclarationPart? (keyword text : List Char) : Option (List Char) :=
  if (afterStart? keyword text).isSome then
    (readAttribute? text).bind fun (_, rest) => afterDeclarationSpace? rest
  else some text

/-- The text after the declaration of the document, which names the version and
perhaps the encoding and whether the document stands alone. The values are not
looked at. -/
def afterDeclaration? (text : List Char) : Option (List Char) :=
  match afterStart? ['<', '?', 'x', 'm', 'l', ' '] text with
  | none => some text
  | some opened =>
      let body := opened.dropWhile isSpace
      if (afterStart? "version".toList body).isSome then do
        let afterVersion ← afterDeclarationPart? "version".toList body
        let afterEncoding ← afterDeclarationPart? "encoding".toList afterVersion
        let afterStandalone ←
          if (afterStart? "standalone".toList afterEncoding).isSome then
            (readAttribute? afterEncoding).map Prod.snd
          else some afterEncoding
        afterStart? ['?', '>'] (afterStandalone.dropWhile isSpace)
      else none

/-- A text without the mark of its byte order. -/
def withoutMark : List Char → List Char
  | '\uFEFF' :: rest => rest
  | text => text

end IssueSync.Xml
