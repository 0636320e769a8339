import IssueSync.Toml.Quoted
import IssueSync.Toml.Scalar
import IssueSync.Toml.Table

/-! # Documents of TOML

A document is a list of lines: headers, and keys with their values. Values in
brackets hold further values, `mostLevels` deep at most; keys have at most as
many parts.
-/

namespace IssueSync.Toml

open Text

/-- How many brackets may stand around a value, and how many parts a key may
have. -/
def mostLevels : Nat := 80

/-- A character that keys without quotes are made of. -/
def isBareKey (character : Char) : Bool :=
  character.isAlphanum || character == '_' || character == '-'

/-- A key, bare or in quotes of one line, with what follows it. -/
def readKey? (text : List Char) : Option (String × List Char) :=
  let bare := text.takeWhile isBareKey
  if bare.isEmpty then (readQuoted? text).map fun (key, rest) => (String.ofList key, rest)
  else some (String.ofList bare, text.dropWhile isBareKey)

/-- A key with at most so many parts, at the front. White space around it is
passed over. -/
def readParts? : (most : Nat) → List Char → Option (List String × List Char)
  | 0, _ => none
  | most + 1, text =>
      match readKey? (text.dropWhile isSpace) with
      | none => none
      | some (key, rest) =>
          match rest.dropWhile isSpace with
          | '.' :: more => (readParts? most more).map fun (path, after) => (key :: path, after)
          | after => some ([key], after)

/-- Several keys with dots between them, with what follows them. -/
def readPath? (text : List Char) : Option (List String × List Char) :=
  readParts? mostLevels text

/-- The rest of a line after the comment at its front, if there is one. -/
def afterComment? : List Char → Option (List Char)
  | '#' :: rest =>
      let comment := rest.takeWhile fun character => character != '\n'
      let after := rest.dropWhile fun character => character != '\n'
      let content := if comment.getLast? = some '\r' ∧ !after.isEmpty then comment.dropLast
        else comment
      if content.all isLineCharacter then some after else none
  | text => some text

/-- The text after white space, comments and line ends, at most `bound` of
them. -/
def afterBlank? : (bound : Nat) → List Char → Option (List Char)
  | 0, text => some text
  | bound + 1, text =>
      match afterComment? (text.dropWhile isSpace) with
      | none => none
      | some rest =>
          match afterLineEnd? rest with
          | some next => afterBlank? bound next
          | none => some rest

mutual

/-- A value at the front, with brackets nested at most `levels` deep. The bound is
larger than the number of values and entries in it. -/
def readValue? (levels : Nat) : (bound : Nat) → List Char → Option (Value × List Char)
  | 0, _ => none
  | bound + 1, text =>
      match text with
      | '[' :: rest =>
          if levels = 0 then none
          else (readItems? (levels - 1) bound rest).map fun after => (.bracketed, after)
      | '\x7B' :: rest =>
          if levels = 0 then none
          else
            match readEntries? (levels - 1) bound rest with
            | none => none
            | some (entries, after) =>
                if areConsistent entries then some (.bracketed, after) else none
      | '"' :: _ => (readText? text).map fun (content, after) =>
          (.text (String.ofList content), after)
      | '\'' :: _ => (readText? text).map fun (content, after) =>
          (.text (String.ofList content), after)
      | _ => (readScalar? text).map fun (_, after) => (.scalar, after)

/-- The rest after the values of a list and its closing bracket. -/
def readItems? (levels : Nat) : (bound : Nat) → List Char → Option (List Char)
  | 0, _ => none
  | bound + 1, text =>
      match afterBlank? text.length text with
      | none => none
      | some (']' :: after) => some after
      | some item =>
          match readValue? levels bound item with
          | none => none
          | some (_, rest) =>
              match afterBlank? rest.length rest with
              | some (',' :: more) => readItems? levels bound more
              | some (']' :: after) => some after
              | _ => none

/-- The entries of a table in braces, and the rest after its closing brace. Line
ends and comments may stand around keys, values and the marks between them. -/
def readEntries? (levels : Nat) :
    (bound : Nat) → List Char → Option (List (List String × Value) × List Char)
  | 0, _ => none
  | bound + 1, text =>
      match afterBlank? text.length text with
      | none => none
      | some ('\x7D' :: after) => some ([], after)
      | some entry =>
          match readPath? entry with
          | none => none
          | some (path, afterPath) =>
              match afterBlank? afterPath.length afterPath with
              | some ('=' :: body) =>
                  match (afterBlank? body.length body).bind (readValue? levels bound) with
                  | none => none
                  | some (value, rest) =>
                      match afterBlank? rest.length rest with
                      | some (',' :: more) =>
                          (readEntries? levels bound more).map fun (entries, after) =>
                            ((path, value) :: entries, after)
                      | some ('\x7D' :: after) => some ([(path, value)], after)
                      | _ => none
              | _ => none

end

/-- A header or an entry, with what follows it. Two brackets begin the header of an
element of a list. -/
def readLine? (text : List Char) : Option (Line × List Char) :=
  match text with
  | '[' :: '[' :: rest =>
      match readPath? rest with
      | some (path, ']' :: ']' :: after) => some (.element path, after)
      | _ => none
  | '[' :: rest =>
      match readPath? rest with
      | some (path, ']' :: after) => some (.table path, after)
      | _ => none
  | _ =>
      match readPath? text with
      | some (path, '=' :: rest) =>
          (readValue? mostLevels text.length (rest.dropWhile isSpace)).map fun (value, after) =>
            (.entry path value, after)
      | _ => none

/-- The headers and entries of a text, each of which ends at the end of its line. Every line
takes one from the bound. -/
def readLines? : (bound : Nat) → List Char → Option (List Line)
  | 0, _ => none
  | bound + 1, text =>
      match afterBlank? text.length text with
      | none => none
      | some [] => some []
      | some body =>
          match readLine? body with
          | none => none
          | some (line, rest) =>
              match afterComment? (rest.dropWhile isSpace) with
              | none => none
              | some [] => some [line]
              | some after =>
                  match afterLineEnd? after with
                  | none => none
                  | some next => (readLines? bound next).map (line :: ·)

/-- The entries of a document. A byte order mark at its beginning is passed
over. -/
def parse? (text : String) : Option Entries :=
  let body := match text.toList with
    | '\uFEFF' :: rest => rest
    | characters => characters
  (readLines? (body.length + 1) body).bind entriesOf?

end IssueSync.Toml
