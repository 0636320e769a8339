import IssueSync.Text.Quoting

/-! # Texts of the operating system

The arguments of a program and the names of files are sequences of bytes. Most of
them are texts in UTF-8 (`SystemText.text?`), but any bytes can come. In messages, what
is no character stands as the replacement character (`SystemText.shown`) or, in
quotes, as its bytes (`SystemText.quoted`).
-/

namespace IssueSync

/-- A text as the operating system has it. -/
structure SystemText where
  bytes : List UInt8
  deriving DecidableEq, Repr, Inhabited

namespace SystemText

/-- The text in UTF-8. -/
def ofText (text : String) : SystemText :=
  ⟨text.toUTF8.data.toList⟩

/-- A text is used as a text of the system. -/
instance : Coe String SystemText := ⟨ofText⟩

/-- The characters that bytes are in UTF-8, if they are characters. -/
def decode? (bytes : List UInt8) : Option String :=
  String.fromUTF8? ⟨bytes.toArray⟩

/-- The text that this is in UTF-8, if it is one. -/
def text? (given : SystemText) : Option String :=
  decode? given.bytes

/-! ### Bytes that are no characters -/

/-- The beginning of a character in UTF-8. -/
structure Opening where
  /-- The bytes so far, latest byte first. -/
  bytes : List UInt8
  /-- How many bytes are missing. -/
  missing : Nat
  /-- The smallest byte that can come next. -/
  least : UInt8 := 0x80
  /-- The largest byte that can come next. -/
  greatest : UInt8 := 0xBF

/-- What a byte begins when several bytes make a character, if it begins anything. -/
def opening? (byte : UInt8) : Option Opening :=
  if byte < 0xC2 then none
  else if byte < 0xE0 then some { bytes := [byte], missing := 1 }
  else if byte = 0xE0 then some { bytes := [byte], missing := 2, least := 0xA0 }
  else if byte = 0xED then some { bytes := [byte], missing := 2, greatest := 0x9F }
  else if byte < 0xF0 then some { bytes := [byte], missing := 2 }
  else if byte = 0xF0 then some { bytes := [byte], missing := 3, least := 0x90 }
  else if byte < 0xF4 then some { bytes := [byte], missing := 3 }
  else if byte = 0xF4 then some { bytes := [byte], missing := 3, greatest := 0x8F }
  else none

/-- Bytes taken apart into characters and pieces that are none. A piece is as long as
the beginning of some character. -/
def piecesFrom (begun : Option Opening) : List UInt8 → List (List UInt8)
  | [] => (begun.map fun opening => opening.bytes.reverse).toList
  | byte :: rest =>
      let anew :=
        match opening? byte with
        | some opening => piecesFrom (some opening) rest
        | none => [byte] :: piecesFrom none rest
      match begun with
      | none => anew
      | some opening =>
          if byte < opening.least ∨ opening.greatest < byte then opening.bytes.reverse :: anew
          else if opening.missing = 1 then
            (byte :: opening.bytes).reverse :: piecesFrom none rest
          else
            piecesFrom
              (some { bytes := byte :: opening.bytes, missing := opening.missing - 1 }) rest

/-- The text in words: pieces that are no characters stand as the replacement
character. -/
def shown (given : SystemText) : String :=
  match given.text? with
  | some text => text
  | none =>
      String.join <| (piecesFrom none given.bytes).map fun piece => (decode? piece).getD "\uFFFD"

/-- A byte as it is quoted. -/
def quotedByte (byte : UInt8) : List Char :=
  let digits := (Text.hexadecimal byte.toNat).map Char.toUpper
  ['\\', 'x'] ++ List.replicate (2 - digits.length) '0' ++ digits

/-- The text in quotes, where pieces that are no characters stand byte by byte. -/
def quoted (given : SystemText) : String :=
  match given.text? with
  | some text => Text.quoted text
  | none =>
      let written := (piecesFrom none given.bytes).flatMap fun piece =>
        match decode? piece with
        | some text => text.toList.flatMap Text.quotedCharacter
        | none => piece.flatMap quotedByte
      "\"" ++ String.ofList written ++ "\""

end SystemText

end IssueSync
