import Mathlib.Data.Nat.Bitwise
import IssueSync.Text.SystemText

/-! # Texts among the texts of the operating system

A text is found again in its bytes, and bytes that are a text are those of that text
(`SystemText.text?_eq_some_iff`). No character begins with the byte below 128 of
another one, so that is how the beginning of a text is seen in its bytes
(`SystemText.exists_head?_of_head?_ofText`). Bytes that are no text are taken apart
without loss (`SystemText.flatten_piecesFrom`).
-/

namespace IssueSync

/-- The bytes of a text are that text. -/
theorem fromUTF8?_toUTF8 (text : String) : String.fromUTF8? text.toUTF8 = some text := by
  rw [String.fromUTF8?, String.toUTF8_eq_toByteArray, dif_pos text.isValidUTF8]
  rfl

/-- Bytes that are a text are the bytes of that text. -/
theorem toUTF8_of_fromUTF8? {content : ByteArray} {text : String}
    (decoded : String.fromUTF8? content = some text) : text.toUTF8 = content := by
  rw [String.fromUTF8?] at decoded
  split at decoded
  · cases decoded
    rfl
  · cases decoded

namespace SystemText

/-- **Texts and their bytes.** What is a text in UTF-8 is that text and no other. -/
theorem text?_eq_some_iff {given : SystemText} {text : String} :
    given.text? = some text ↔ given = ofText text := by
  rw [text?, decode?]
  constructor
  · intro decoded
    rw [ofText, toUTF8_of_fromUTF8? decoded, List.toList_toArray]
  · rintro rfl
    exact fromUTF8?_toUTF8 text

/-- A text is read back. -/
@[simp]
theorem text?_ofText (text : String) : (ofText text).text? = some text :=
  text?_eq_some_iff.mpr rfl

/-- A text is shown as it is. -/
@[simp]
theorem shown_ofText (text : String) : (ofText text).shown = text := by
  rw [shown, text?_ofText]

/-! ### The first byte -/

/-- A text is written character by character. -/
theorem bytes_ofText (text : String) :
    (ofText text).bytes = text.toList.flatMap String.utf8EncodeChar := by
  rw [ofText, String.toUTF8_eq_toByteArray, ← String.utf8Encode_toList, List.utf8Encode,
    List.toList_data_toByteArray]

/-- A byte below 128 is the beginning of no character but its own. -/
theorem toNat_eq_of_head?_utf8EncodeChar {character : Char} {byte : UInt8}
    (small : byte.toNat < 128) (first : (String.utf8EncodeChar character).head? = some byte) :
    character.toNat = byte.toNat := by
  have large (low high : UInt8) (isHigh : 128 ≤ high.toNat) : low ||| high ≠ byte := by
    intro same
    rw [← same, UInt8.toNat_or] at small
    have atLeast : high.toNat ≤ low.toNat ||| high.toNat := Nat.right_le_or
    omega
  rcases Char.utf8Size_eq character with one | two | three | four
  · rw [String.utf8EncodeChar_eq_singleton one] at first
    have bound : character.toNat ≤ 127 :=
      UInt32.le_iff_toNat_le.mp (Char.utf8Size_eq_one_iff.mp one)
    rw [← Option.some.inj first, UInt32.toNat_toUInt8]
    exact (Nat.mod_eq_of_lt (by omega)).symm
  · rw [String.utf8EncodeChar_eq_cons_cons two] at first
    exact absurd (Option.some.inj first) (large _ _ (by decide))
  · rw [String.utf8EncodeChar_eq_cons_cons_cons three] at first
    exact absurd (Option.some.inj first) (large _ _ (by decide))
  · rw [String.utf8EncodeChar_eq_cons_cons_cons_cons four] at first
    exact absurd (Option.some.inj first) (large _ _ (by decide))

/-- A text whose bytes begin with a byte below 128 begins with its character. -/
theorem exists_head?_of_head?_ofText {text : String} {byte : UInt8} (small : byte.toNat < 128)
    (first : (ofText text).bytes.head? = some byte) :
    ∃ character, text.toList.head? = some character ∧ character.toNat = byte.toNat := by
  rw [bytes_ofText] at first
  cases characters : text.toList with
  | nil =>
      rw [characters] at first
      cases first
  | cons character rest =>
      refine ⟨character, rfl, toNat_eq_of_head?_utf8EncodeChar small ?_⟩
      rw [characters, List.flatMap_cons, List.head?_append] at first
      cases written : (String.utf8EncodeChar character).head? with
      | none => exact absurd (List.head?_eq_none_iff.mp written) (String.utf8EncodeChar_ne_nil)
      | some byte =>
          rw [written] at first
          exact first

/-! ### Pieces -/

/-- What begins with a byte has that byte so far. -/
theorem bytes_of_opening? {byte : UInt8} {opening : Opening}
    (found : opening? byte = some opening) : opening.bytes = [byte] := by
  unfold opening? at found
  split_ifs at found
  all_goals
    cases found
    rfl

/-- Nothing is lost when bytes are taken apart. -/
theorem flatten_piecesFrom (begun : Option Opening) (bytes : List UInt8) :
    (piecesFrom begun bytes).flatten =
      ((begun.map fun opening => opening.bytes.reverse).getD []) ++ bytes := by
  induction bytes generalizing begun with
  | nil => cases begun <;> simp [piecesFrom]
  | cons byte rest ih =>
      have anew : (piecesFrom none (byte :: rest)).flatten = byte :: rest := by
        rw [piecesFrom]
        cases found : opening? byte with
        | none => simp [ih]
        | some opening => simp [ih, bytes_of_opening? found]
      cases begun with
      | none => exact anew
      | some opening =>
          rw [piecesFrom]
          split
          · exact congrArg (opening.bytes.reverse ++ ·) anew
          · split
            · simp [ih]
            · simp [ih]

end SystemText

end IssueSync
