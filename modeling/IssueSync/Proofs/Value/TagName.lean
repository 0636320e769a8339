import IssueSync.Value.TagName

/-! # Names that are read back from tags

A tag is read from left to right. Outside an escape an underscore opens one and
every other character has to stand for itself; inside, an underscore closes it
and the characters between are the shortest numeral of a character that needs an
escape (`escaped?`). A tag is read as a name exactly when it is the tag of that
name (`decode?_eq_some_iff`), so no two names have one tag.
-/

namespace IssueSync.TagName

open Text (hexadecimal number? charOfCode?)

/-- The character whose code point stands in an escape. -/
def escaped? (numeral : List Char) : Option Char :=
  ((number? 16 numeral).bind charOfCode?).filter fun character =>
    encodeCharacter character = '_' :: numeral ++ ['_']

/-- The name that the rest of a tag stands for. While an escape is being read,
`numeral` holds its characters so far, latest character first. -/
def decodeFrom? (numeral : Option (List Char)) : List Char → Option (List Char)
  | [] => if numeral.isNone then some [] else none
  | character :: rest =>
      match numeral with
      | none =>
          if character = '_' then decodeFrom? (some []) rest
          else if isPlain character then (decodeFrom? none rest).map (character :: ·)
          else none
      | some digits =>
          if character = '_' then
            match escaped? digits.reverse with
            | some named => (decodeFrom? none rest).map (named :: ·)
            | none => none
          else decodeFrom? (some (character :: digits)) rest

/-- The name that a tag stands for, if it is the tag of one. -/
def decode? (tag : String) : Option String :=
  (decodeFrom? none tag.toList).map String.ofList

/-! ### What an escape holds -/

/-- Plain characters have small codes. -/
theorem toNat_lt_of_isPlain {character : Char} (plain : isPlain character = true) :
    character.toNat < 123 := by
  delta isPlain Char.isAlphanum Char.isAlpha Char.isUpper Char.isLower Char.isDigit at plain
  simp only [Bool.or_eq_true, Bool.and_eq_true, decide_eq_true_eq, ge_iff_le,
    UInt32.le_iff_toNat_le, Char.toNat_val] at plain
  have last : 'Z'.toNat < 123 ∧ 'z'.toNat < 123 ∧ '9'.toNat < 123 := by decide
  omega

/-- What is true of the characters that stand for themselves is found by going through
the code points. -/
@[elab_as_elim]
theorem of_isPlain {property : Char → Prop} {character : Char} (plain : isPlain character = true)
    (each : ∀ code < 123, isPlain (Char.ofNat code) = true → property (Char.ofNat code)) :
    property character := by
  have found := each character.toNat (toNat_lt_of_isPlain plain)
  rw [Char.ofNat_toNat] at found
  exact found plain

/-- An underscore is not plain, so it can stand around codes. -/
theorem ne_underscore_of_isPlain {character : Char} (plain : isPlain character = true) :
    character ≠ '_' := by
  rintro rfl
  cases plain

/-- The digits of codes are plain. -/
theorem isPlain_of_mem_hexadecimal {number : Nat} {digit : Char}
    (member : digit ∈ hexadecimal number) : isPlain digit = true := by
  obtain ⟨value, small, rfl⟩ := Text.exists_of_mem_hexadecimal member
  have all : ∀ value < 16, isPlain (Nat.digitChar value) = true := by decide
  exact all value small

/-- A code between underscores leads back to its character. -/
theorem escaped?_hexadecimal {character : Char} (special : isPlain character = false) :
    escaped? (hexadecimal character.toNat) = some character := by
  have written : encodeCharacter character = '_' :: hexadecimal character.toNat ++ ['_'] := by
    rw [encodeCharacter, special, if_neg Bool.false_ne_true]
  rw [escaped?, Text.number?_hexadecimal, Option.bind_some, Text.charOfCode?_toNat,
    Option.filter_some, if_pos (decide_eq_true written)]

/-- A character that a code leads to is written by that code. -/
theorem encodeCharacter_of_escaped? {numeral : List Char} {character : Char}
    (named : escaped? numeral = some character) :
    encodeCharacter character = '_' :: numeral ++ ['_'] :=
  of_decide_eq_true (Option.filter_eq_some_iff.mp named).2

/-! ### Reading a tag -/

/-- A numeral is read up to the underscore behind it. -/
theorem decodeFrom?_numeral {numeral : List Char}
    (plain : ∀ digit ∈ numeral, isPlain digit = true) (digits rest : List Char) :
    decodeFrom? (some digits) (numeral ++ '_' :: rest) =
      (escaped? (digits.reverse ++ numeral)).bind fun named =>
        (decodeFrom? none rest).map (named :: ·) := by
  induction numeral generalizing digits with
  | nil =>
      rw [List.nil_append, decodeFrom?, if_pos rfl, List.append_nil]
      cases escaped? digits.reverse with
      | none => rfl
      | some named => rfl
  | cons digit numeral ih =>
      obtain ⟨first, later⟩ := List.forall_mem_cons.mp plain
      rw [List.cons_append, decodeFrom?, if_neg (ne_underscore_of_isPlain first), ih later,
        List.reverse_cons, List.append_assoc, List.singleton_append]

/-- A character is read back from what is written for it, whatever follows. -/
theorem decodeFrom?_encodeCharacter (character : Char) (rest : List Char) :
    decodeFrom? none (encodeCharacter character ++ rest) =
      (decodeFrom? none rest).map (character :: ·) := by
  rw [encodeCharacter]
  split
  · next plain =>
      rw [List.singleton_append, decodeFrom?, if_neg (ne_underscore_of_isPlain plain), if_pos plain]
  · next special =>
      have escape : '_' :: hexadecimal character.toNat ++ ['_'] ++ rest =
          '_' :: (hexadecimal character.toNat ++ '_' :: rest) := by simp
      rw [escape, decodeFrom?, if_pos rfl,
        decodeFrom?_numeral (fun _ => isPlain_of_mem_hexadecimal), List.reverse_nil,
        List.nil_append, escaped?_hexadecimal (Bool.not_eq_true _ ▸ special), Option.bind_some]

/-- A name is read back from its tag. -/
theorem decodeFrom?_flatMap_encodeCharacter (name : List Char) :
    decodeFrom? none (name.flatMap encodeCharacter) = some name := by
  induction name with
  | nil => rfl
  | cons character rest ih =>
      rw [List.flatMap_cons, decodeFrom?_encodeCharacter, ih, Option.map_some]

/-- What has been read of an escape. -/
def opened : Option (List Char) → List Char
  | none => []
  | some digits => '_' :: digits.reverse

/-- What was read, with the rest of the tag, is the tag of the name. -/
theorem encode_of_decodeFrom? {numeral : Option (List Char)} {tag name : List Char}
    (read : decodeFrom? numeral tag = some name) :
    opened numeral ++ tag = name.flatMap encodeCharacter := by
  induction tag generalizing numeral name with
  | nil =>
      rw [decodeFrom?] at read
      split at read
      · next none =>
          cases read
          rw [Option.isNone_iff_eq_none.mp none]
          rfl
      · cases read
  | cons character rest ih =>
      rw [decodeFrom?.eq_def] at read
      dsimp only at read
      split at read
      · split at read
        · next opens =>
            rw [← ih read, opens]
            rfl
        · split at read
          · next plain =>
              obtain ⟨remaining, more, rfl⟩ := Option.map_eq_some_iff.mp read
              rw [List.flatMap_cons, encodeCharacter, if_pos plain, ← ih more]
              rfl
          · cases read
      · next digits =>
          split at read
          · next closes =>
              split at read
              -- `escaped?` admits only what is written of the character.
              · next named found =>
                  obtain ⟨remaining, more, rfl⟩ := Option.map_eq_some_iff.mp read
                  rw [List.flatMap_cons, encodeCharacter_of_escaped? found, ← ih more, closes]
                  simp [opened]
              · cases read
          · rw [← ih read]
            simp [opened]

/-- A tag is read as the name that it was written for. -/
theorem decode?_eq_some_iff {tag name : String} : decode? tag = some name ↔ encode name = tag := by
  rw [decode?, Option.map_eq_some_iff, encode]
  constructor
  · rintro ⟨characters, read, rfl⟩
    rw [String.toList_ofList, ← encode_of_decodeFrom? read]
    exact String.ofList_toList
  · rintro rfl
    refine ⟨name.toList, ?_, String.ofList_toList⟩
    rw [String.toList_ofList, decodeFrom?_flatMap_encodeCharacter]

/-- The tag of a name is made of those of its parts. -/
theorem encode_append (first second : String) :
    encode (first ++ second) = encode first ++ encode second := by
  rw [encode, String.toList_append, List.flatMap_append, String.ofList_append]
  rfl

/-- A tag holds no characters but ASCII letters, digits and underscores. -/
theorem isAlphanum_or_eq_of_mem_encode {name : String} {character : Char}
    (member : character ∈ (encode name).toList) :
    character.isAlphanum = true ∨ character = '_' := by
  rw [encode, String.toList_ofList, List.mem_flatMap] at member
  obtain ⟨original, -, inside⟩ := member
  rw [encodeCharacter] at inside
  split at inside
  · next plain => exact .inl (List.mem_singleton.mp inside ▸ plain)
  · simp only [List.cons_append, List.mem_cons, List.mem_append, List.not_mem_nil,
      or_false] at inside
    rcases inside with underscore | digit | underscore
    · exact .inr underscore
    · exact .inl (isPlain_of_mem_hexadecimal digit)
    · exact .inr underscore

/-- **A tag loses nothing of its name.** A tag is read as a name exactly when it
is the tag of that name, so every name is read back and no two names share a tag.
Tags consist of ASCII letters, digits and underscores, and the tag of two names
in a row is made of their tags. -/
theorem encode_lossless :
    (∀ tag name, decode? tag = some name ↔ encode name = tag) ∧
      (∀ name, decode? (encode name) = some name) ∧
      (∀ first second, encode first = encode second → first = second) ∧
      (∀ name, ∀ character ∈ (encode name).toList,
        character.isAlphanum = true ∨ character = '_') ∧
      ∀ first second, encode (first ++ second) = encode first ++ encode second := by
  have readBack (name : String) : decode? (encode name) = some name :=
    decode?_eq_some_iff.mpr rfl
  refine ⟨fun _ _ => decode?_eq_some_iff, readBack, ?_,
    fun _ _ => isAlphanum_or_eq_of_mem_encode, encode_append⟩
  intro first second same
  have both := readBack first
  rw [same, readBack second] at both
  exact (Option.some.inj both).symm

/-- A name that looks like an escape, and one with digits right beside escaped
characters. -/
theorem encode_lossless_escapes :
    encode "_21_" = "_5f_21_5f_" ∧ decode? "_5f_21_5f_" = some "_21_" ∧
      encode "a0!f" = "a0_21_f" ∧ encode "a0!f" ≠ encode "a0_21_f" ∧
      ∀ character ∈ (encode "a0!f").toList, character.isAlphanum = true ∨ character = '_' := by
  obtain ⟨read, -, distinct, alphabet, -⟩ := encode_lossless
  have escape : encode "_21_" = "_5f_21_5f_" := by decide
  refine ⟨escape, (read _ _).mpr escape, by decide, fun same => ?_, alphabet "a0!f"⟩
  exact absurd (distinct _ _ same) (by decide)

/-- Upper case digits, leading zeros and escapes of plain characters are in no
tag. -/
example : decode? "_5F_" = none ∧ decode? "_021_" = none ∧ decode? "_61_" = none := by
  decide

end IssueSync.TagName
