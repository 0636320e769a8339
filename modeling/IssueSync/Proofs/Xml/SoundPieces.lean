import IssueSync.Proofs.Text.Runs
import IssueSync.Xml.Piece

/-! # The pieces of a text that can be read

Every name that is read consists of name characters, with the label cut off at
the colon (`readName?_named`). References name only characters that a document may
hold (`resolve?_allXml`), so texts and attribute values hold no others. The end of
a comment or a processing instruction comes where it was found, whatever follows
(`EndsAt`). Together this is what every piece of a text is known to hold
(`pieces?_sound`).
-/

namespace IssueSync.Xml

open Text (splitFirst? occursIn afterStart? afterStart?_eq_some_iff afterStart?_eq_none_iff Stops
  stops_cons takeWhile_append dropWhile_append)

/-! ### Names -/

/-- A name without a colon: it begins as a name must and goes on with name
characters. -/
def IsName (characters : List Char) : Prop :=
  startsName characters = true ∧ ∀ character ∈ characters, isNamePart character = true

-- The instance is named, so that not all characters are tried.
instance (characters : List Char) : Decidable (IsName characters) :=
  @instDecidableAnd _ _ inferInstance (List.decidableBAll _ characters)

/-- The label, unless there is none, and the local name are names. -/
def WrittenName.IsNamed (name : WrittenName) : Prop :=
  (name.label = [] ∨ IsName name.label) ∧ IsName name.localName

/-- But for the colon the same characters stand in names with and without a label. -/
theorem isNamePart_of_isNameCharacter {character : Char} (different : character ≠ ':')
    (part : isNameCharacter character = true) : isNamePart character = true := by
  rw [isNameCharacter, Bool.or_eq_true, beq_iff_eq] at part
  exact part.resolve_left different

/-- The parts of a run of name characters are names. -/
theorem ofRun?_named {run : List Char} {name : WrittenName}
    (characters : ∀ character ∈ run, isNameCharacter character = true)
    (found : WrittenName.ofRun? run = some name) : name.IsNamed := by
  have part : ∀ piece : List Char, piece ⊆ run → ':' ∉ piece →
      ∀ character ∈ piece, isNamePart character = true := by
    intro piece subset noColon character member
    refine isNamePart_of_isNameCharacter (fun same => ?_) (characters character (subset member))
    exact noColon (same ▸ member)
  simp only [WrittenName.ofRun?] at found
  split at found
  · next label localName divided =>
      have whole := Text.eq_of_splitFirst? divided
      split at found
      · next valid =>
          cases found
          simp only [Bool.and_eq_true, Bool.or_eq_true, List.isEmpty_iff, Bool.not_eq_true',
            List.contains_eq_mem, decide_eq_false_iff_not] at valid
          obtain ⟨⟨labelStarts, localStarts⟩, noColon⟩ := valid
          have inLabel : label ⊆ run := by
            rw [whole, List.append_assoc]
            exact List.subset_append_left _ _
          have inLocal : localName ⊆ run := by
            rw [whole]
            exact List.subset_append_right _ _
          refine ⟨labelStarts.imp id fun starts => ⟨starts, ?_⟩, localStarts, ?_⟩
          · exact part label inLabel ((Text.splitFirst?_singleton_iff.mp divided).2)
          · exact part localName inLocal noColon
      · cases found
  · split at found
    · next valid =>
        cases found
        simp only [Bool.and_eq_true, Bool.not_eq_true', List.contains_eq_mem,
          decide_eq_false_iff_not] at valid
        obtain ⟨⟨-, starts⟩, noColon⟩ := valid
        exact ⟨.inl rfl, starts, part run (List.Subset.refl run) noColon⟩
    · cases found

/-- A name that was read is one. -/
theorem readName?_named {text rest : List Char} {name : WrittenName}
    (read : readName? text = some (name, rest)) : name.IsNamed := by
  obtain ⟨found, run, same⟩ := Option.map_eq_some_iff.mp read
  obtain ⟨rfl, -⟩ := Prod.mk.inj same
  exact ofRun?_named (List.all_eq_true.mp List.all_takeWhile) run

/-! ### Ends -/

/-- Whatever follows, the content ends at the first occurrence of `closing`. -/
def EndsAt (closing content : List Char) : Prop :=
  ∀ rest, splitFirst? closing (content ++ closing ++ rest) = some (content, rest)

theorem endsAt_nil (closing : List Char) : EndsAt closing [] := by
  intro rest
  rw [List.nil_append]
  cases whole : closing ++ rest with
  | nil =>
      obtain ⟨rfl, rfl⟩ := List.append_eq_nil_iff.mp whole
      rfl
  | cons first more =>
      rw [splitFirst?, afterStart?_eq_some_iff.mpr whole.symm]

/-- What stands before the first occurrence of an end has the end behind it and
nowhere else. -/
theorem endsAt_of_splitFirst? {closing text content after : List Char}
    (found : splitFirst? closing text = some (content, after)) : EndsAt closing content := by
  induction text generalizing content with
  | nil =>
      rw [splitFirst?] at found
      split at found
      · cases found
        exact endsAt_nil closing
      · cases found
  | cons first tail ih =>
      rw [splitFirst?] at found
      split at found
      · cases found
        exact endsAt_nil closing
      · next absent =>
          obtain ⟨⟨inner, left⟩, step, same⟩ := Option.map_eq_some_iff.mp found
          obtain ⟨rfl, rfl⟩ := Prod.mk.inj same
          intro rest
          -- Whether `closing` begins here is decided before it ends after the content.
          have later : afterStart? closing (first :: (inner ++ closing ++ rest)) = none := by
            rw [afterStart?_eq_none_iff] at absent ⊢
            intro starts
            have inside : closing <+: first :: (inner ++ closing) :=
              List.prefix_of_prefix_length_le starts ⟨rest, rfl⟩ (by simp; omega)
            refine absent (inside.trans ⟨left, ?_⟩)
            rw [Text.eq_of_splitFirst? step, List.cons_append]
          rw [List.cons_append, List.cons_append, splitFirst?, later, ih step rest]
          rfl

/-! ### Texts and values -/

/-- All characters may stand in a document. -/
def AllXml (text : List Char) : Prop :=
  ∀ character ∈ text, isXmlChar character = true

/-- The character of a document, however it was written. -/
def Written.character : Written → Char
  | .literal character => character
  | .referenced character => character

/-- References only stand for allowed characters. -/
theorem referenced?_isXmlChar {body : List Char} {character : Char}
    (found : referenced? body = some character) : isXmlChar character = true := by
  have numbered : ∀ {number : Nat}, numbered? number = some character →
      isXmlChar character = true := by
    intro number named
    rw [numbered?] at named
    split at named
    · exact (Option.filter_eq_some_iff.mp named).2
    · cases named
  unfold referenced? at found
  split at found
  · obtain ⟨number, -, named⟩ := Option.bind_eq_some_iff.mp found
    exact numbered named
  · obtain ⟨number, -, named⟩ := Option.bind_eq_some_iff.mp found
    exact numbered named
  · cases found; decide
  · cases found; decide
  · cases found; decide
  · cases found; decide
  · cases found; decide
  · cases found

/-- Resolving references brings in no forbidden character. -/
theorem resolve?_allXml {reference : Option (List Char)} {raw : List Char} {written : List Written}
    (allowed : AllXml raw) (resolved : resolve? reference raw = some written) :
    ∀ item ∈ written, isXmlChar item.character = true := by
  induction raw generalizing reference written with
  | nil =>
      rw [resolve?] at resolved
      split at resolved
      · cases resolved
        exact List.forall_mem_nil _
      · cases resolved
  | cons first rest ih =>
      obtain ⟨firstAllowed, restAllowed⟩ := List.forall_mem_cons.mp allowed
      rw [resolve?.eq_def] at resolved
      dsimp only at resolved
      split at resolved
      · split at resolved
        · exact ih restAllowed resolved
        · obtain ⟨others, more, rfl⟩ := Option.map_eq_some_iff.mp resolved
          exact List.forall_mem_cons.mpr ⟨firstAllowed, ih restAllowed more⟩
      · split at resolved
        · split at resolved
          · next named found =>
              obtain ⟨others, more, rfl⟩ := Option.map_eq_some_iff.mp resolved
              exact List.forall_mem_cons.mpr
                ⟨referenced?_isXmlChar found, ih restAllowed more⟩
          · cases resolved
        · exact ih restAllowed resolved

theorem normalizeSpaces_allXml {written : List Written}
    (allowed : ∀ item ∈ written, isXmlChar item.character = true) :
    AllXml (normalizeSpaces written) := by
  fun_induction normalizeSpaces written with
  | case1 => exact List.forall_mem_nil _
  | case2 character rest ih =>
      obtain ⟨first, later⟩ := List.forall_mem_cons.mp allowed
      exact List.forall_mem_cons.mpr ⟨first, ih later⟩
  | case3 character rest joined ih => exact ih (List.forall_mem_cons.mp allowed).2
  | case4 character rest apart ih =>
      obtain ⟨first, later⟩ := List.forall_mem_cons.mp allowed
      refine List.forall_mem_cons.mpr ⟨?_, ih later⟩
      split
      · decide
      · exact first

theorem normalizeLines_allXml {afterReference : Bool} {written : List Written}
    (allowed : ∀ item ∈ written, isXmlChar item.character = true) :
    AllXml (normalizeLines afterReference written) := by
  fun_induction normalizeLines afterReference written with
  | case1 => exact List.forall_mem_nil _
  | case2 afterReference character rest ih =>
      obtain ⟨first, later⟩ := List.forall_mem_cons.mp allowed
      exact List.forall_mem_cons.mpr ⟨first, ih later⟩
  | case3 afterReference character ends =>
      exact List.forall_mem_cons.mpr ⟨by decide, List.forall_mem_nil _⟩
  | case4 afterReference character kept =>
      exact List.forall_mem_cons.mpr ⟨(List.forall_mem_cons.mp allowed).1, List.forall_mem_nil _⟩
  | case5 afterReference character next rest ih =>
      obtain ⟨first, later⟩ := List.forall_mem_cons.mp allowed
      exact List.forall_mem_cons.mpr ⟨first, ih later⟩
  | case6 afterReference rest ih =>
      exact List.forall_mem_cons.mpr
        ⟨by decide, ih (List.forall_mem_cons.mp (List.forall_mem_cons.mp allowed).2).2⟩
  | case7 afterReference next rest other ih =>
      exact List.forall_mem_cons.mpr ⟨by decide, ih (List.forall_mem_cons.mp allowed).2⟩
  | case8 afterReference character next rest other ih =>
      obtain ⟨first, later⟩ := List.forall_mem_cons.mp allowed
      exact List.forall_mem_cons.mpr ⟨first, ih later⟩

theorem textOf?_allXml {raw : List Char} {text : String} (allowed : AllXml raw)
    (read : textOf? raw = some text) : AllXml text.toList := by
  obtain ⟨written, resolved, rfl⟩ := Option.map_eq_some_iff.mp read
  rw [String.toList_ofList]
  exact normalizeLines_allXml (resolve?_allXml allowed resolved)

theorem valueOf?_allXml {raw : List Char} {value : String} (allowed : AllXml raw)
    (read : valueOf? raw = some value) : AllXml value.toList := by
  obtain ⟨written, resolved, rfl⟩ := Option.map_eq_some_iff.mp read
  rw [String.toList_ofList]
  exact normalizeSpaces_allXml (resolve?_allXml allowed resolved)

/-- Sections have allowed characters. -/
theorem sectionText_allXml {raw : List Char} (allowed : AllXml raw) :
    AllXml (sectionText raw).toList := by
  rw [sectionText, String.toList_ofList]
  refine normalizeLines_allXml fun item member => ?_
  obtain ⟨character, inRaw, rfl⟩ := List.mem_map.mp member
  exact allowed character inRaw

/-! ### Attributes -/

/-- The text may stand between two quotes as the value of an attribute. -/
structure IsQuoted (quote : Char) (raw : List Char) : Prop where
  kind : quote = '"' ∨ quote = '\''
  characters : AllXml raw
  quoteAbsent : quote ∉ raw
  bracketAbsent : '<' ∉ raw

/-- A bracket is no quote. -/
theorem IsQuoted.ne_bracket {quote : Char} {raw : List Char} (quoted : IsQuoted quote raw) :
    quote ≠ '<' := by
  rcases quoted.kind with rfl | rfl
  · decide
  · decide

/-- An attribute is a name, an equals sign and a value between quotes. -/
theorem readAttribute?_eq_some_iff {text rest raw : List Char} {name : WrittenName} :
    readAttribute? text = some ((name, raw), rest) ↔
      ∃ afterName afterEquals quote, readName? text = some (name, afterName) ∧
        afterName.dropWhile isSpace = '=' :: afterEquals ∧
        afterEquals.dropWhile isSpace = quote :: (raw ++ quote :: rest) ∧
        IsQuoted quote raw := by
  constructor
  · intro read
    simp only [readAttribute?] at read
    split at read
    · cases read
    · next nameRead =>
        split at read
        · next equals =>
            split at read
            · cases read
            · next quote quoted opening =>
                split at read
                · next checks =>
                    cases read
                    simp only [Bool.and_eq_true, Bool.or_eq_true, beq_iff_eq] at checks
                    obtain ⟨⟨kind, characters⟩, closed⟩ := checks
                    obtain ⟨tail, ends⟩ := List.head?_eq_some_iff.mp closed
                    have inside := List.all_eq_true.mp (List.all_takeWhile (l := quoted)
                      (p := fun character => character != quote && character != '<'))
                    refine ⟨_, _, quote, nameRead, equals, ?_, kind, List.all_eq_true.mp characters,
                      fun member => ?_, fun member => ?_⟩
                    · rw [opening, ends, List.tail_cons, ← ends, List.takeWhile_append_dropWhile]
                    · simpa using inside quote member
                    · simpa using inside '<' member
                · cases read
        · cases read
  · rintro ⟨afterName, afterEquals, quote, nameRead, equals, opening, quoted⟩
    have inside : ∀ character ∈ raw, (character != quote && character != '<') = true := by
      intro character member
      have notQuote : character ≠ quote := fun same => quoted.quoteAbsent (same ▸ member)
      have notBracket : character ≠ '<' := fun same => quoted.bracketAbsent (same ▸ member)
      simp [notQuote, notBracket]
    have stops : Stops (fun character => character != quote && character != '<')
        (quote :: rest) := stops_cons (by simp) _
    unfold readAttribute?
    simp only [nameRead, equals, opening]
    rw [takeWhile_append inside stops, dropWhile_append inside stops,
      List.all_eq_true.mpr quoted.characters]
    rcases quoted.kind with rfl | rfl
    · rfl
    · rfl

/-- An attribute that was read has a name. -/
theorem readAttribute?_named {text rest : List Char} {name : WrittenName} {raw : List Char}
    (read : readAttribute? text = some ((name, raw), rest)) : name.IsNamed := by
  obtain ⟨_, _, _, nameRead, -⟩ := readAttribute?_eq_some_iff.mp read
  exact readName?_named nameRead

theorem readAttribute?_allXml {text rest raw : List Char} {name : WrittenName}
    (read : readAttribute? text = some ((name, raw), rest)) : AllXml raw := by
  obtain ⟨_, _, _, -, -, -, quoted⟩ := readAttribute?_eq_some_iff.mp read
  exact quoted.characters

/-! ### What pieces hold -/

/-- The names and values of a list of written attributes are sound. -/
def ItemsSound (items : List WrittenAttribute) : Prop :=
  ∀ item ∈ items, item.name.IsNamed ∧ AllXml item.value.toList

/-- What a comment holds. -/
structure IsComment (content : List Char) : Prop where
  characters : AllXml content
  apart : occursIn ['-', '-'] content = false
  ending : content.getLast? ≠ some '-'
  ends : EndsAt ['-', '-', '>'] content

/-- What stands after the target of a processing instruction. -/
structure IsInstructionValue (value : List Char) : Prop where
  characters : AllXml value
  filled : value ≠ []
  start : ∀ first, value.head? = some first → isSpace first = false
  ends : EndsAt ['?', '>'] value

/-- The target of a processing instruction. -/
structure IsTarget (target : List Char) : Prop where
  characters : ∀ character ∈ target, isNameCharacter character = true
  start : target.head?.any (fun first => first == ':' || isNameStart first) = true

/-- What every piece that was read is made of. -/
def Piece.Sound : Piece → Prop
  | .startTag name items _ => name.IsNamed ∧ ItemsSound items
  | .endTag name => name.IsNamed
  | .characters raw => AllXml raw
  | .sectionData content => AllXml content.toList
  | .comment content => IsComment content.toList
  | .instruction target value =>
      IsTarget target.toList ∧ ∀ content, value = some content → IsInstructionValue content.toList

theorem readAttributes?_sound {text rest : List Char} {items : List WrittenAttribute}
    {closed : Bool} (read : readAttributes? text = some ((items, closed), rest)) :
    ItemsSound items := by
  fun_induction readAttributes? text generalizing items closed rest with
  | case1 text tail drop =>
      cases read
      exact List.forall_mem_nil _
  | case2 text tail drop =>
      cases read
      exact List.forall_mem_nil _
  | case3 => cases read
  | case4 text _ name raw tail first value attributes closed after more valueRead _ _ ih =>
      cases read
      refine List.forall_mem_cons.mpr ⟨⟨readAttribute?_named first, ?_⟩, ih more⟩
      exact valueOf?_allXml (readAttribute?_allXml first) valueRead
  | case5 => cases read
  | case6 => cases read

theorem readStartTag?_sound {text rest : List Char} {piece : Piece}
    (read : readStartTag? text = some (piece, rest)) : piece.Sound := by
  simp only [readStartTag?] at read
  split at read
  · cases read
  · next nameRead =>
      obtain ⟨⟨⟨items, closed⟩, tail⟩, more, same⟩ := Option.map_eq_some_iff.mp read
      obtain ⟨rfl, -⟩ := Prod.mk.inj same
      exact ⟨readName?_named nameRead, readAttributes?_sound more⟩

theorem readEndTag?_sound {text rest : List Char} {piece : Piece}
    (read : readEndTag? text = some (piece, rest)) : piece.Sound := by
  simp only [readEndTag?] at read
  split at read
  · cases read
  · next nameRead =>
      split at read
      · cases read
        exact readName?_named nameRead
      · cases read

theorem readComment?_sound {text rest : List Char} {piece : Piece}
    (read : readComment? text = some (piece, rest)) : piece.Sound := by
  simp only [readComment?] at read
  split at read
  · cases read
  · next closed =>
      split at read
      · next checks =>
          cases read
          simp only [Bool.and_eq_true, Bool.not_eq_true', bne_iff_ne] at checks
          rw [Piece.Sound, String.toList_ofList]
          exact ⟨List.all_eq_true.mp checks.1.1, checks.1.2, checks.2,
            endsAt_of_splitFirst? closed⟩
      · cases read

theorem readSection?_sound {text rest : List Char} {piece : Piece}
    (read : readSection? text = some (piece, rest)) : piece.Sound := by
  simp only [readSection?] at read
  split at read
  · cases read
  · split at read
    · next allowed =>
        cases read
        exact sectionText_allXml (List.all_eq_true.mp allowed)
    · cases read

theorem readInstruction?_sound {text rest : List Char} {piece : Piece}
    (read : readInstruction? text = some (piece, rest)) : piece.Sound := by
  simp only [readInstruction?] at read
  split at read
  · cases read
  · next checks =>
      simp only [Bool.or_eq_true, not_or, Bool.not_eq_true', Bool.not_eq_false] at checks
      split at read
      · cases read
      · next value tail closed =>
          split at read
          · next allowed =>
              cases read
              refine ⟨?_, ?_⟩
              · rw [String.toList_ofList]
                exact ⟨List.all_eq_true.mp List.all_takeWhile, checks.2⟩
              · intro content same
                split at same
                · cases same
                · next filled =>
                    cases same
                    rw [String.toList_ofList]
                    refine ⟨List.all_eq_true.mp allowed,
                      fun blank => filled (List.isEmpty_iff.mpr blank), ?_,
                      endsAt_of_splitFirst? closed⟩
                    intro first begins
                    obtain ⟨more, rfl⟩ := List.head?_eq_some_iff.mp begins
                    have whole := Text.eq_of_splitFirst? closed
                    have head := List.head?_dropWhile_not isSpace (text.dropWhile isNameCharacter)
                    rw [whole] at head
                    exact head
          · cases read

theorem readMarkup?_sound {text rest : List Char} {piece : Piece}
    (read : readMarkup? text = some (piece, rest)) : piece.Sound := by
  simp only [readMarkup?] at read
  split at read
  · exact readComment?_sound read
  · split at read
    · exact readSection?_sound read
    · split at read
      · exact readInstruction?_sound read
      · exact readEndTag?_sound read
      · exact readStartTag?_sound read

/-- All pieces that were read are sound. -/
theorem readPiece?_sound {text rest : List Char} {piece : Piece}
    (read : readPiece? text = some (piece, rest)) : piece.Sound := by
  cases text with
  | nil => cases read
  | cons first tail =>
      simp only [readPiece?] at read
      split at read
      · exact readMarkup?_sound read
      · simp only [readCharacters?] at read
        split at read
        · next checks =>
            cases read
            simp only [Bool.and_eq_true] at checks
            exact List.all_eq_true.mp checks.1
        · cases read

/-- Every piece of a text is sound. -/
theorem pieces?_sound {text : List Char} {pieces : List Piece}
    (read : pieces? text = some pieces) : ∀ piece ∈ pieces, piece.Sound := by
  fun_induction pieces? text generalizing pieces with
  | case1 =>
      cases read
      exact List.forall_mem_nil _
  | case2 => cases read
  | case3 first tail piece after found ih =>
      obtain ⟨others, more, rfl⟩ := Option.map_eq_some_iff.mp read
      exact List.forall_mem_cons.mpr ⟨readPiece?_sound found, ih more⟩

end IssueSync.Xml
