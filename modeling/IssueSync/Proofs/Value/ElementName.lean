import IssueSync.Proofs.Value.TagName
import IssueSync.Proofs.Xml.DocumentReread

/-! # Tags as names of elements

A tag consists of characters that names may go on with. What a name may begin with
is less: letters and underscores, and so escapes, but no digits. The document that
is one empty element is accepted exactly when the name of the element begins as
names do (`Xml.Document.parse?_emptyElement`), so a tag names an element unless its
name begins with a digit or is empty (`TagName.parse?_emptyElement_encode`).
-/

namespace IssueSync

namespace Xml

/-- The document that is one empty element. -/
def emptyElement (tag : String) : String :=
  "<" ++ tag ++ "/>"

theorem toList_emptyElement (tag : String) :
    (emptyElement tag).toList = '<' :: (tag.toList ++ ['/', '>']) := by
  rw [emptyElement, String.toList_append, String.toList_append]
  rfl

section EmptyElement

variable {tag : List Char} (parts : ∀ character ∈ tag, isNamePart character = true)

include parts

/-- An empty element is no declaration of a document. -/
theorem ofCharacters?_emptyElement :
    Document.ofCharacters? ('<' :: (tag ++ ['/', '>'])) =
      (pieces? ('<' :: (tag ++ ['/', '>']))).bind Document.ofPieces? := by
  have noDeclaration :
      Text.afterStart? ['?', 'x', 'm', 'l', ' '] (tag ++ ['/', '>']) = none := by
    cases tag with
    | nil => exact afterStart?_of_ne (by decide) _ _
    | cons first rest =>
        have part := isNameCharacter_of_isNamePart (parts first List.mem_cons_self)
        exact afterStart?_of_ne (isNameCharacter_ne part).2.2.2.2.symm _ _
  have body : afterDeclaration? ('<' :: (tag ++ ['/', '>'])) =
      some ('<' :: (tag ++ ['/', '>'])) :=
    afterDeclaration?_of_none noDeclaration
  have noMark : withoutMark ('<' :: (tag ++ ['/', '>'])) = '<' :: (tag ++ ['/', '>']) := rfl
  rw [Document.ofCharacters?, noMark, body]
  rfl

/-- With a tag that can begin a name an empty element is one piece. -/
theorem pieces?_emptyElement_of_startsName (starts : startsName tag = true) :
    pieces? ('<' :: (tag ++ ['/', '>'])) = some [.startTag ⟨[], tag⟩ [] true] := by
  have named : WrittenName.IsNamed ⟨[], tag⟩ := ⟨.inl rfl, starts, parts⟩
  have noItems : ItemsSound [] := nofun
  have read := readPiece?_startTag named noItems true []
  change readPiece? ('<' :: (tag ++ ['/', '>'])) = some (.startTag ⟨[], tag⟩ [] true, []) at read
  rw [pieces?_of_readPiece? read, pieces?]
  rfl

/-- Where a name is expected and does not begin, nothing is read. -/
theorem pieces?_emptyElement_of_not_startsName (starts : startsName tag = false) :
    pieces? ('<' :: (tag ++ ['/', '>'])) = none := by
  have characters : ∀ character ∈ tag, isNameCharacter character = true := fun _ member =>
    isNameCharacter_of_isNamePart (parts _ member)
  have whole : Text.splitFirst? [':'] tag = none := by
    rw [Option.eq_none_iff_forall_ne_some]
    rintro ⟨before, after⟩ found
    obtain ⟨divided, -⟩ := Text.splitFirst?_singleton_iff.mp found
    have colon : isNamePart ':' = true := parts ':' (divided ▸ by simp)
    revert colon
    decide
  have unread : readName? (tag ++ ['/', '>']) = none := by
    have stops : Text.Stops isNameCharacter ['/', '>'] := Text.stops_cons (by decide) _
    rw [readName?, Text.takeWhile_append characters stops, WrittenName.ofRun?, whole]
    simp [starts]
  apply pieces?_of_readPiece?_none
  rw [readPiece?, if_pos rfl]
  cases tag with
  | nil => rfl
  | cons first rest =>
      rw [List.cons_append] at unread ⊢
      rw [readMarkup?_of_isNameCharacter (characters first List.mem_cons_self), readStartTag?,
        unread]

end EmptyElement

/-- A name without a namespace, with characters of names, is that of an element
exactly when it begins as names do. -/
theorem Document.parse?_emptyElement {tag : String}
    (parts : ∀ character ∈ tag.toList, isNamePart character = true) :
    Document.parse? (emptyElement tag) =
      if startsName tag.toList then some ⟨[.element ⟨none, tag⟩ [] [] []]⟩ else none := by
  rw [Document.parse?, toList_emptyElement, ofCharacters?_emptyElement parts]
  split
  · next starts =>
      rw [pieces?_emptyElement_of_startsName parts starts]
      change some (Document.mk [.element ⟨none, String.ofList tag.toList⟩ [] [] []]) = _
      rw [String.ofList_toList]
  · next notStarts =>
      rw [pieces?_emptyElement_of_not_startsName parts (Bool.not_eq_true _ ▸ notStarts)]
      rfl

end Xml

namespace TagName

open Xml (Document emptyElement isNameStart isNamePart startsName)

/-- Of the characters that stand for themselves, names begin with all but the
digits. -/
theorem isNameStart_eq_of_isPlain {character : Char} (plain : isPlain character = true) :
    isNameStart character = !character.isDigit := by
  have all : ∀ code < 123, isPlain (Char.ofNat code) = true →
      isNameStart (Char.ofNat code) = !(Char.ofNat code).isDigit := by
    decide
  exact of_isPlain plain all

/-- Letters, digits and underscores may stand in names. -/
theorem isNamePart_of_isPlain {character : Char} (plain : isPlain character = true) :
    isNamePart character = true := by
  have all : ∀ code < 123, isPlain (Char.ofNat code) = true →
      isNamePart (Char.ofNat code) = true := by
    decide
  exact of_isPlain plain all

/-- A tag has only such characters. -/
theorem isNamePart_of_mem_encode {name : String} {character : Char}
    (member : character ∈ (encode name).toList) : isNamePart character = true := by
  rcases isAlphanum_or_eq_of_mem_encode member with plain | rfl
  · exact isNamePart_of_isPlain plain
  · decide

/-- The name begins, and with no digit. -/
def beginsApart (name : String) : Bool :=
  name.toList.head?.any fun first => !first.isDigit

/-- A tag begins with the first character of the name, or with an escape. -/
theorem startsName_encode (name : String) :
    startsName (encode name).toList = beginsApart name := by
  rw [encode, String.toList_ofList, beginsApart]
  cases name.toList with
  | nil => rfl
  | cons first rest =>
      rw [List.flatMap_cons, encodeCharacter, List.head?_cons, Option.any_some]
      split
      · next plain => exact isNameStart_eq_of_isPlain plain
      · next special =>
          have notDigit : first.isDigit = false := by
            rw [isPlain, Char.isAlphanum, Bool.or_eq_true, not_or] at special
            exact Bool.not_eq_true _ ▸ special.2
          rw [notDigit]
          rfl

/-- A tag names an element for exactly these names. -/
theorem parse?_emptyElement_encode (name : String) :
    Document.parse? (emptyElement (encode name)) =
      if beginsApart name then some ⟨[.element ⟨none, encode name⟩ [] [] []]⟩ else none := by
  rw [Document.parse?_emptyElement fun _ => isNamePart_of_mem_encode, startsName_encode]

/-- The empty element with a tag is a document, and the tag is the local name of
its top element. -/
def NamesElement (tag : String) : Prop :=
  ∃ document top, Document.parse? (emptyElement tag) = some document ∧
    top ∈ document.nodes ∧ top.isElement = true ∧ top.localName? = some tag

/-- **Tags name elements unless their names begin with a digit.** The tag of a name
is the name of an element exactly when the name is not empty and does not begin
with a digit. Then the document of that element is accepted and holds nothing
else; otherwise it is refused. -/
theorem namesElement_encode_iff (name : String) :
    (NamesElement (encode name) ↔ beginsApart name = true) ∧
      Document.parse? (emptyElement (encode name)) =
        if beginsApart name then some ⟨[.element ⟨none, encode name⟩ [] [] []]⟩ else none := by
  have read := parse?_emptyElement_encode name
  refine ⟨⟨?_, fun apart => ?_⟩, read⟩
  · rintro ⟨document, -, accepted, -⟩
    rw [read] at accepted
    split at accepted
    · next apart => exact apart
    · cases accepted
  · rw [if_pos apart] at read
    exact ⟨_, _, read, List.mem_singleton.mpr rfl, rfl, rfl⟩

/-- Not all names have tags that name elements: a digit at the beginning of a name
stays at the beginning of its tag. -/
theorem not_namesElement_of_digit :
    ¬ ∀ name : String, name ≠ "" → NamesElement (encode name) := by
  intro all
  obtain ⟨document, -, accepted, -⟩ := all "2nd owner" (by decide)
  rw [parse?_emptyElement_encode, if_neg (by decide)] at accepted
  cases accepted

end TagName

end IssueSync
