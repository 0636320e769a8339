import Mathlib.Data.List.Basic
import IssueSync.Proofs.Text.Runs
import IssueSync.Toml.Document

/-! # Lines that are read as they were written

A text of plain characters is quoted as it is (`quote_of_plain`) and read up to the
quote behind it (`readText?_quote`). So a line with a bare key and a quoted text is
read as that entry whatever stands on the next lines (`readLine?_writtenLine`), and
lines that are written one after the other are read as their entries
(`readLines?_writtenLines`).
-/

namespace IssueSync.Toml

open Text (Stops stops_cons takeWhile_append dropWhile_append dropWhile_of_stops)

/-- A character that stands for itself between double quotes: no double quote, no
backslash and no control character. -/
def isPlain (character : Char) : Bool :=
  0x20 ≤ character.toNat && character != '\x7F' && character != '"' && character != '\\'

/-- A text of plain characters. -/
def Plain (text : List Char) : Prop :=
  ∀ character ∈ text, isPlain character = true

instance (text : List Char) : Decidable (Plain text) :=
  List.decidableBAll _ _

variable {text rest : List Char} {character : Char}

theorem ne_of_holds {test : Char → Bool} (holds : test character = true) {other : Char}
    (fails : test other = false) : character ≠ other := by
  rintro rfl
  rw [holds] at fails
  cases fails

/-- Plain characters may stand in quotes of one line. -/
theorem isLineCharacter_of_isPlain (plain : isPlain character = true) :
    isLineCharacter character = true := by
  simp only [isPlain, Bool.and_eq_true] at plain
  rw [isLineCharacter, plain.1.1.1, plain.1.1.2]
  exact Bool.or_true _

/-- A plain text has none of the characters that are not plain. -/
theorem Plain.not_mem (plain : Plain text) {other : Char} (special : isPlain other = false) :
    other ∉ text := fun member => ne_of_holds (plain other member) special rfl

/-! ### Quoting -/

/-- Plain characters are written as they are. -/
theorem escapeCharacter_of_isPlain (plain : isPlain character = true) :
    escapeCharacter false character = [character] := by
  have printable : ¬ (character.toNat < 0x20 ∨ character = '\x7F') := by
    rintro (control | delete)
    · simp only [isPlain, Bool.and_eq_true, decide_eq_true_eq] at plain
      omega
    · exact ne_of_holds plain (by decide) delete
  have other {special : Char} (notPlain : isPlain special = false) : character ≠ special :=
    ne_of_holds plain notPlain
  rw [escapeCharacter, if_neg (other (by decide)), if_neg (other (by decide)),
    if_neg (other (by decide)), if_neg (other (by decide)), if_neg (other (by decide)),
    if_neg (other (by decide)), if_neg (other (by decide)), if_neg printable]

/-- A character that does not occur has no runs. -/
theorem longestRun_of_not_mem {mark : Char} (absent : mark ∉ text) :
    longestRun mark 0 0 text = 0 := by
  induction text with
  | nil => rfl
  | cons first text ih =>
      rw [List.mem_cons, not_or] at absent
      rw [longestRun, if_neg (Ne.symm absent.1)]
      exact ih absent.2

/-- A plain text is written between double quotes. -/
theorem quote_of_plain (plain : Plain text) : quote text = '"' :: (text ++ ['"']) := by
  have coded : text.any needsEscape = false := by
    rw [List.any_eq_false]
    intro character member needs
    have printable := plain character member
    simp only [needsEscape, isPlain, Bool.and_eq_true, Bool.or_eq_true, bne_iff_ne,
      decide_eq_true_eq, beq_iff_eq] at needs printable
    rcases needs with ⟨⟨control, -⟩, -⟩ | delete
    · omega
    · exact printable.1.1.2 delete
  have slashes : text.contains '\\' = false := by
    simpa using plain.not_mem (by decide)
  have lines : text.contains '\n' = false := by
    simpa using plain.not_mem (by decide)
  have doubles : longestRun '"' 0 0 text = 0 := longestRun_of_not_mem (plain.not_mem (by decide))
  have written : text.flatMap (escapeCharacter false) = text :=
    (List.flatMap_congr fun character member =>
      escapeCharacter_of_isPlain (plain character member)).trans (List.flatMap_singleton' text)
  rw [quote]
  simp only [coded, slashes, lines, doubles, written]
  rfl

/-! ### Reading a quoted text -/

/-- A plain text is read up to the quote behind it. -/
theorem untilQuote?_of_plain (plain : Plain text) (rest : List Char) :
    untilQuote? false (text ++ '"' :: rest) = some (text, rest) := by
  induction text with
  | nil => rfl
  | cons first text ih =>
      obtain ⟨firstPlain, textPlain⟩ := List.forall_mem_cons.mp plain
      have noQuote : (first == '"') = false :=
        beq_false_of_ne (ne_of_holds firstPlain (by decide))
      have noSlash : (first == '\\') = false :=
        beq_false_of_ne (ne_of_holds firstPlain (by decide))
      rw [List.cons_append, untilQuote?, noQuote, noSlash]
      simp only [Bool.not_false, Bool.and_false, Bool.false_eq_true, if_false, ih textPlain]
      rfl

/-- A plain text may stand in quotes. -/
theorem isContent_of_plain (plain : Plain text) : isContent false text = true := by
  induction text with
  | nil => rfl
  | cons first text ih =>
      obtain ⟨firstPlain, textPlain⟩ := List.forall_mem_cons.mp plain
      rw [isContent, isLineCharacter_of_isPlain firstPlain, ih textPlain]
      · rfl
      · intro _ same _
        exact ne_of_holds firstPlain (by decide) same
      · intro same
        exact ne_of_holds firstPlain (by decide) same

/-- A plain text has no escapes. -/
theorem unescape?_of_plain (plain : Plain text) : unescape? false text = some text := by
  induction text with
  | nil => rw [unescape?]
  | cons first text ih =>
      obtain ⟨firstPlain, textPlain⟩ := List.forall_mem_cons.mp plain
      rw [unescape?, if_neg (ne_of_holds firstPlain (by decide)), ih textPlain]
      rfl

/-- The text does not begin with a double quote, so quotes before it are not taken
for three of them. -/
theorem readText?_quote (plain : Plain text) (stops : rest.head? ≠ some '"') :
    readText? ('"' :: (text ++ '"' :: rest)) = some (text, rest) := by
  have notThree : Text.afterStart? ['"', '"', '"'] ('"' :: (text ++ '"' :: rest)) = none := by
    rw [Text.afterStart?_eq_none_iff, List.cons_prefix_cons]
    rintro ⟨-, begins⟩
    cases text with
    | nil =>
        obtain ⟨-, ⟨more, same⟩⟩ := List.cons_prefix_cons.mp begins
        exact stops (same ▸ rfl)
    | cons first text =>
        have firstPlain := plain first List.mem_cons_self
        exact ne_of_holds firstPlain (by decide) (List.cons_prefix_cons.mp begins).1.symm
  have notSingle : Text.afterStart? ['\'', '\'', '\''] ('"' :: (text ++ '"' :: rest)) = none :=
    rfl
  rw [readText?, notThree]
  dsimp only
  rw [notSingle]
  dsimp only
  have checked : checkedContent? false true text = some text := by
    rw [checkedContent?, isContent_of_plain plain, if_pos rfl, if_pos rfl, unescape?_of_plain plain]
  rw [readQuoted?, untilQuote?_of_plain plain, Option.bind_some]
  dsimp only
  rw [checked]
  rfl

/-! ### Lines -/

/-- A line with a key and a quoted text. -/
def writtenLine (key value : List Char) : List Char :=
  key ++ ' ' :: '=' :: ' ' :: (quote value ++ ['\n'])

/-- A key that is written without quotes. -/
def Bare (key : List Char) : Prop :=
  key ≠ [] ∧ ∀ character ∈ key, isBareKey character = true

variable {key value : List Char}

theorem Bare.exists_cons (bare : Bare key) :
    ∃ first more, key = first :: more ∧ isBareKey first = true := by
  obtain ⟨first, more, rfl⟩ := List.exists_cons_of_ne_nil bare.1
  exact ⟨first, more, rfl, bare.2 first List.mem_cons_self⟩

/-- A bare key is read up to the space behind it. -/
theorem readPath?_bare (bare : Bare key) (rest : List Char) :
    readPath? (key ++ ' ' :: '=' :: rest) = some ([String.ofList key], '=' :: rest) := by
  have stops : Stops isBareKey (' ' :: '=' :: rest) := stops_cons (by decide) _
  have equals : Stops isSpace ('=' :: rest) := stops_cons (by decide) _
  have noSpace : Stops isSpace (key ++ ' ' :: '=' :: rest) := by
    obtain ⟨first, more, rfl, part⟩ := bare.exists_cons
    refine stops_cons ?_ _
    rw [isSpace, beq_false_of_ne (ne_of_holds part (by decide)),
      beq_false_of_ne (ne_of_holds part (by decide))]
    rfl
  have filled : key.isEmpty = false := List.isEmpty_eq_false_iff.mpr bare.1
  have read : readKey? (key ++ ' ' :: '=' :: rest) =
      some (String.ofList key, ' ' :: '=' :: rest) := by
    rw [readKey?, takeWhile_append bare.2 stops, dropWhile_append bare.2 stops, filled]
    rfl
  have space : (' ' :: '=' :: rest).dropWhile isSpace = '=' :: rest := by
    rw [List.dropWhile_cons, if_pos (by decide), dropWhile_of_stops equals]
  rw [readPath?, mostLevels, readParts?, dropWhile_of_stops noSpace, read]
  dsimp only
  rw [space]
  rfl

/-- A plain text in quotes is read back, unless a further quote follows. -/
theorem readValue?_quote (plain : Plain value) (stops : rest.head? ≠ some '"')
    (levels bound : Nat) :
    readValue? levels (bound + 1) ('"' :: (value ++ '"' :: rest)) =
      some (.text (String.ofList value), rest) := by
  rw [readValue?]
  dsimp only
  rw [readText?_quote plain stops]
  rfl

/-- A line is read as its entry; the end of the line is left. -/
theorem readLine?_writtenLine (bare : Bare key) (plain : Plain value) (rest : List Char) :
    readLine? (writtenLine key value ++ rest) =
      some (.entry [String.ofList key] (.text (String.ofList value)), '\n' :: rest) := by
  have whole : writtenLine key value ++ rest =
      key ++ ' ' :: '=' :: ' ' :: '"' :: (value ++ '"' :: '\n' :: rest) := by
    simp [writtenLine, quote_of_plain plain]
  have path := readPath?_bare bare (' ' :: '"' :: (value ++ '"' :: '\n' :: rest))
  obtain ⟨first, more, rfl, part⟩ := bare.exists_cons
  have noHeader : first ≠ '[' := ne_of_holds part (by decide)
  have quoted : (' ' :: '"' :: (value ++ '"' :: '\n' :: rest)).dropWhile isSpace =
      '"' :: (value ++ '"' :: '\n' :: rest) := by
    rw [List.dropWhile_cons, if_pos (by decide), dropWhile_of_stops (stops_cons (by decide) _)]
  rw [whole, readLine?.eq_def]
  split
  · next same => exact absurd (List.cons.inj same).1 noHeader
  · next same => exact absurd (List.cons.inj same).1 noHeader
  · have stops : ('\n' :: rest).head? ≠ some '"' := by simp
    rw [path]
    change (readValue? mostLevels _ ((' ' :: '"' :: (value ++ '"' :: '\n' :: rest)).dropWhile
      isSpace)).map _ = _
    rw [quoted, List.cons_append, List.length_cons, readValue?_quote plain stops]
    rfl

theorem afterComment?_of_ne (noComment : character ≠ '#') (rest : List Char) :
    afterComment? (character :: rest) = some (character :: rest) := by
  rw [afterComment?]
  intro more same
  exact noComment (List.cons.inj same).1

theorem afterLineEnd?_of_ne (noFeed : character ≠ '\n') (noReturn : character ≠ '\r')
    (rest : List Char) : afterLineEnd? (character :: rest) = none := by
  rw [afterLineEnd?]
  · intro more same
    exact noFeed (List.cons.inj same).1
  · intro more same
    exact noReturn (List.cons.inj same).1

/-- Before a key there is nothing to pass over. -/
theorem afterBlank?_of_isBareKey (part : isBareKey character = true) (bound : Nat)
    (rest : List Char) : afterBlank? bound (character :: rest) = some (character :: rest) := by
  have other {mark : Char} (notBare : isBareKey mark = false) : character ≠ mark :=
    ne_of_holds part notBare
  have noSpace : isSpace character = false := by
    rw [isSpace, beq_false_of_ne (other (by decide)), beq_false_of_ne (other (by decide))]
    rfl
  cases bound with
  | zero => rfl
  | succ bound =>
      rw [afterBlank?, dropWhile_of_stops (stops_cons noSpace rest),
        afterComment?_of_ne (other (by decide))]
      dsimp only
      rw [afterLineEnd?_of_ne (other (by decide)) (other (by decide))]

theorem writtenLine_ne_nil (key value : List Char) : writtenLine key value ≠ [] := by
  rw [writtenLine]
  exact List.append_ne_nil_of_right_ne_nil _ (List.cons_ne_nil _ _)

/-- There are at least as many characters as lines, so the bound on lines is no limit. -/
theorem length_le_writtenLines (lines : List (List Char × List Char)) :
    lines.length ≤ (lines.flatMap fun line => writtenLine line.1 line.2).length := by
  induction lines with
  | nil => exact Nat.le_refl 0
  | cons line lines ih =>
      have filled := List.length_pos_of_ne_nil (writtenLine_ne_nil line.1 line.2)
      rw [List.flatMap_cons, List.length_append, List.length_cons]
      omega

/-- Lines begin with a key. -/
theorem isBareKey_of_head?_writtenLines {lines : List (List Char × List Char)}
    (bare : ∀ line ∈ lines, Bare line.1) {first : Char}
    (begins : (lines.flatMap fun line => writtenLine line.1 line.2).head? = some first) :
    isBareKey first = true := by
  cases lines with
  | nil => cases begins
  | cons line lines =>
      obtain ⟨head, key, same, part⟩ := (bare line List.mem_cons_self).exists_cons
      rw [List.flatMap_cons, writtenLine, same] at begins
      cases begins
      exact part

/-- Lines are read one after the other. -/
theorem readLines?_writtenLines {lines : List (List Char × List Char)}
    (sound : ∀ line ∈ lines, Bare line.1 ∧ Plain line.2) {bound : Nat}
    (enough : lines.length < bound) :
    readLines? bound (lines.flatMap fun line => writtenLine line.1 line.2) =
      some (lines.map fun line =>
        .entry [String.ofList line.1] (.text (String.ofList line.2))) := by
  induction lines generalizing bound with
  | nil =>
      cases bound with
      | zero => cases enough
      | succ bound => rfl
  | cons line lines ih =>
      obtain ⟨⟨bare, plain⟩, others⟩ := List.forall_mem_cons.mp sound
      cases bound with
      | zero => cases enough
      | succ bound =>
          have more := ih others (Nat.lt_of_succ_lt_succ enough)
          rw [List.flatMap_cons]
          generalize (lines.flatMap fun line => writtenLine line.1 line.2) = rest at more ⊢
          have read := readLine?_writtenLine bare plain rest
          obtain ⟨first, tail, begins, part⟩ : ∃ first tail,
              writtenLine line.1 line.2 ++ rest = first :: tail ∧ isBareKey first = true := by
            obtain ⟨first, key, same, part⟩ := bare.exists_cons
            exact ⟨first, _, by rw [writtenLine, same]; rfl, part⟩
          rw [begins] at read ⊢
          rw [readLines?, afterBlank?_of_isBareKey part]
          dsimp only
          rw [read]
          dsimp only
          rw [dropWhile_of_stops (stops_cons (by decide) rest), afterComment?_of_ne (by decide)]
          dsimp only
          rw [afterLineEnd?]
          dsimp only
          rw [more]
          rfl

end IssueSync.Toml
