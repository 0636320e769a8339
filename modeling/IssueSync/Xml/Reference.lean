import IssueSync.Text.Digits
import IssueSync.Xml.Character

/-! # Character references and normalization

Character data is a list of characters written literally or by a reference.
Line ends and the white space of attribute values are normalized on literal
characters only: what a reference names is kept.
-/

namespace IssueSync.Xml

/-- A character of a document, as it was written. -/
inductive Written where
  | literal (character : Char)
  | referenced (character : Char)
  deriving DecidableEq, Repr

/-- The character with a number below two to the thirty-two; numbers that are
no code point of a character stand for the replacement character. -/
def numbered? (number : Nat) : Option Char :=
  if number < Nat.pow 2 32 then
    some ((Text.charOfCode? number).getD '\uFFFD') |>.filter isXmlChar
  else none

/-- The character that a reference names, from the text between the ampersand
and the semicolon. -/
def referenced? : List Char → Option Char
  | '#' :: 'x' :: numeral => (Text.number? 16 numeral).bind numbered?
  | '#' :: numeral => (Text.number? 10 numeral).bind numbered?
  | ['l', 't'] => some '<'
  | ['g', 't'] => some '>'
  | ['a', 'm', 'p'] => some '&'
  | ['q', 'u', 'o', 't'] => some '"'
  | ['a', 'p', 'o', 's'] => some '\''
  | _ => none

/-- The characters of a text with its references resolved. While a reference
is being read, `reference` holds its text so far, latest character first. -/
def resolve? (reference : Option (List Char)) : List Char → Option (List Written)
  | [] => if reference.isNone then some [] else none
  | character :: rest =>
      match reference with
      | none =>
          if character = '&' then resolve? (some []) rest
          else (resolve? none rest).map (.literal character :: ·)
      | some body =>
          if character = ';' then
            match referenced? body.reverse with
            | some named => (resolve? none rest).map (.referenced named :: ·)
            | none => none
          else resolve? (some (character :: body)) rest

/-- Text with its line ends normalized: a literal carriage return, with the
literal line feed after it if there is one, becomes a line feed. It stays when
a reference comes next, and at the end when it comes right after a reference. -/
def normalizeLines (afterReference : Bool) : List Written → List Char
  | [] => []
  | .referenced character :: rest => character :: normalizeLines true rest
  | [.literal character] =>
      if character = '\r' ∧ !afterReference then ['\n'] else [character]
  | .literal character :: .referenced next :: rest =>
      character :: normalizeLines false (.referenced next :: rest)
  | .literal character :: .literal next :: rest =>
      if character = '\r' then
        if next = '\n' then '\n' :: normalizeLines false rest
        else '\n' :: normalizeLines false (.literal next :: rest)
      else character :: normalizeLines false (.literal next :: rest)

/-- An attribute value with its white space normalized: a literal tab, line
feed or carriage return becomes a space, a carriage return and the line feed
after it one space together. -/
def normalizeSpaces : List Written → List Char
  | [] => []
  | .referenced character :: rest => character :: normalizeSpaces rest
  | .literal character :: rest =>
      if character = '\r' ∧ rest.head? = some (.literal '\n') then normalizeSpaces rest
      else (if isSpace character then ' ' else character) :: normalizeSpaces rest

/-- The text that characters between tags stand for. -/
def textOf? (raw : List Char) : Option String :=
  (resolve? none raw).map fun written => String.ofList (normalizeLines false written)

/-- The value that characters between quotes stand for. -/
def valueOf? (raw : List Char) : Option String :=
  (resolve? none raw).map fun written => String.ofList (normalizeSpaces written)

/-- The text of a `CDATA` section, where an ampersand is a character like any
other. -/
def sectionText (raw : List Char) : String :=
  String.ofList (normalizeLines false (raw.map .literal))

end IssueSync.Xml
