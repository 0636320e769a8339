import Mathlib.Data.Bool.AllAny
import IssueSync.Proofs.Toml.WrittenLine
import IssueSync.Proofs.Xml.TopTag

/-! # Markup is no TOML

A text that is a document of XML begins, behind its byte order mark and white space,
with an opening bracket (`leadsToBracket_of_parse?`). No line of TOML begins so, and
white space before it may be passed over but does not help. So no text is both
(`parse?_of_document`).
-/

namespace IssueSync.Toml

open Xml (Document Piece Assembly withoutMark pieces? readPiece? afterDeclaration?)

/-- There is nothing but white space of XML before the first opening bracket. -/
inductive LeadsToBracket : List Char → Prop
  | bracket (rest : List Char) : LeadsToBracket ('<' :: rest)
  | space {character : Char} {rest : List Char} (isSpace : Xml.isSpace character = true)
      (leads : LeadsToBracket rest) : LeadsToBracket (character :: rest)

variable {text after : List Char}

theorem leadsToBracket_append (spaces : ∀ character ∈ text, Xml.isSpace character = true)
    (leads : LeadsToBracket after) : LeadsToBracket (text ++ after) := by
  induction text with
  | nil => exact leads
  | cons first text ih =>
      obtain ⟨firstSpace, others⟩ := List.forall_mem_cons.mp spaces
      exact .space firstSpace (ih others)

/-! ### Documents -/

/-- Character data before the top element are white space, and do not make a
document. -/
theorem leadsToBracket_of_characters {others : List Piece} {document : Document}
    (cut : pieces? (text.dropWhile (· != '<')) = some others)
    (accepted : Document.ofPieces? (.characters (text.takeWhile (· != '<')) :: others) =
      some document) : LeadsToBracket text := by
  rw [Document.ofPieces?, List.foldlM_cons] at accepted
  change Option.bind (Option.bind (if _ then some Assembly.initial else none) _) _ = _ at accepted
  split at accepted
  · next spaces =>
      rw [← List.takeWhile_append_dropWhile (p := (· != '<')) (l := text)]
      refine leadsToBracket_append (List.all_eq_true.mp spaces) ?_
      have stops := List.head?_dropWhile_not (· != '<') text
      cases behind : text.dropWhile (· != '<') with
      | nil =>
          rw [behind, pieces?] at cut
          cases cut
          cases accepted
      | cons head tail =>
          rw [behind] at stops
          have opens : head = '<' := by simpa using stops
          exact opens ▸ .bracket tail
  · cases accepted

/-- Before the first tag of a document there are only white space, comments and
processing instructions, which begin with a bracket as tags do. -/
theorem leadsToBracket_of_ofPieces? {pieces : List Piece} {document : Document}
    (read : pieces? text = some pieces) (accepted : Document.ofPieces? pieces = some document) :
    LeadsToBracket text := by
  cases pieces with
  | nil => cases accepted
  | cons piece others =>
      obtain ⟨after, first, cut⟩ := Xml.exists_of_pieces?_cons read
      cases text with
      | nil => cases first
      | cons head tail =>
          by_cases opens : head = '<'
          · exact opens ▸ .bracket tail
          rw [readPiece?, if_neg opens, Xml.readCharacters?] at first
          split at first
          · cases first
            exact leadsToBracket_of_characters cut accepted
          · cases first

/-- An accepted document leads to a bracket. -/
theorem leadsToBracket_of_parse? {text : String} {document : Document}
    (accepted : Document.parse? text = some document) :
    LeadsToBracket (withoutMark text.toList) := by
  obtain ⟨body, opened, read⟩ := Option.bind_eq_some_iff.mp accepted
  obtain ⟨pieces, cut, made⟩ := Option.bind_eq_some_iff.mp read
  cases starts : Text.afterStart? ['<', '?', 'x', 'm', 'l', ' '] (withoutMark text.toList) with
  | none =>
      rw [Xml.afterDeclaration?_of_none starts] at opened
      cases opened
      exact leadsToBracket_of_ofPieces? cut made
  | some opened =>
      rw [Text.afterStart?_eq_some_iff.mp starts]
      exact .bracket _

/-! ### Lines -/

/-- What a text begins with that leads to a bracket. -/
def leading : List Char := ['<', ' ', '\t', '\n', '\r']

namespace LeadsToBracket

theorem exists_cons (leads : LeadsToBracket text) :
    ∃ first rest, text = first :: rest ∧ first ∈ leading := by
  cases leads with
  | bracket rest => exact ⟨'<', rest, rfl, by decide⟩
  | @space character rest isSpace leads =>
      refine ⟨character, rest, rfl, ?_⟩
      simp only [Xml.isSpace, Bool.or_eq_true, beq_iff_eq, or_assoc] at isSpace
      rcases isSpace with rfl | rfl | rfl | rfl
      all_goals decide

/-- Spaces may go. -/
theorem dropWhile (leads : LeadsToBracket text) : LeadsToBracket (text.dropWhile isSpace) := by
  induction leads with
  | bracket rest => exact .bracket rest
  | @space character rest space leads ih =>
      rw [List.dropWhile_cons]
      split
      · exact ih
      · exact .space space leads

/-- There is no comment on the way. -/
theorem afterComment? (leads : LeadsToBracket text) : afterComment? text = some text := by
  obtain ⟨first, rest, rfl, listed⟩ := leads.exists_cons
  have noComment : ∀ first ∈ leading, first ≠ '#' :=
    List.all_iff_forall_prop.mp (by decide)
  exact afterComment?_of_ne (noComment first listed) rest

/-- The ends of lines may go. -/
theorem afterLineEnd? (leads : LeadsToBracket text) (ends : afterLineEnd? text = some after) :
    LeadsToBracket after := by
  rw [Toml.afterLineEnd?.eq_def] at ends
  split at ends
  · cases ends
    cases leads with
    | space _ leads => exact leads
  · cases ends
    cases leads with
    | space _ leads =>
        cases leads with
        | space _ leads => exact leads
  · cases ends

/-- Blank lines may go. -/
theorem afterBlank? (leads : LeadsToBracket text) {bound : Nat}
    (passed : afterBlank? bound text = some after) : LeadsToBracket after := by
  induction bound generalizing text with
  | zero =>
      cases passed
      exact leads
  | succ bound ih =>
      rw [Toml.afterBlank?, leads.dropWhile.afterComment?] at passed
      dsimp only at passed
      split at passed
      · next ends => exact ih (leads.dropWhile.afterLineEnd? ends) passed
      · cases passed
        exact leads.dropWhile

/-- No key begins with what the text begins with. -/
theorem readPath? (leads : LeadsToBracket text) : readPath? text = none := by
  obtain ⟨first, rest, begins, listed⟩ := leads.dropWhile.exists_cons
  have none : ∀ first ∈ leading,
      isBareKey first = false ∧ first ≠ '"' ∧ first ≠ '\'' :=
    List.all_iff_forall_prop.mp (by decide)
  obtain ⟨notBare, notDouble, notSingle⟩ := none first listed
  have unread : readKey? (first :: rest) = .none := by
    rw [readKey?, Text.takeWhile_of_stops (Text.stops_cons notBare rest), readQuoted?]
    · rfl
    · intro more same
      exact notDouble (List.cons.inj same).1
    · intro more same
      exact notSingle (List.cons.inj same).1
  rw [Toml.readPath?, mostLevels, readParts?, begins, unread]

/-- No line of settings begins with the bracket. -/
theorem readLine? (leads : LeadsToBracket text) : readLine? text = none := by
  obtain ⟨first, rest, rfl, listed⟩ := leads.exists_cons
  have noHeader : ∀ first ∈ leading, first ≠ '[' :=
    List.all_iff_forall_prop.mp (by decide)
  rw [Toml.readLine?.eq_def]
  split
  · next same => exact absurd (List.cons.inj same).1 (noHeader first listed)
  · next same => exact absurd (List.cons.inj same).1 (noHeader first listed)
  · rw [leads.readPath?]

/-- So there are no settings. -/
theorem readLines? (leads : LeadsToBracket text) (bound : Nat) : readLines? bound text = none := by
  cases bound with
  | zero => rfl
  | succ bound =>
      rw [Toml.readLines?]
      split
      · rfl
      · next passed => cases leads.afterBlank? passed
      · next body _ passed =>
          rw [(leads.afterBlank? passed).readLine?]

end LeadsToBracket

/-- A document of XML is no document of TOML. -/
theorem parse?_of_document {text : String} {document : Document}
    (accepted : Document.parse? text = some document) : parse? text = none := by
  have body : parse? text = (readLines? ((withoutMark text.toList).length + 1)
      (withoutMark text.toList)).bind entriesOf? := rfl
  rw [body, (leadsToBracket_of_parse? accepted).readLines?]
  rfl

end IssueSync.Toml
