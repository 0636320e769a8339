import IssueSync.Text.Digits
import IssueSync.Text.Search

/-! # Quoted texts of TOML

A text stands in double quotes, with escapes, or in single quotes, without
them; three quotes let it go over several lines. A text is written in the first
form that holds it without escapes, if there is one.
-/

namespace IssueSync.Toml

open Text

/-- A character that may stand between the parts of a line. -/
def isSpace (character : Char) : Bool :=
  character == ' ' || character == '\t'

/-- The characters that a line may hold as they are: all but the control
characters, of which only the tab is allowed. -/
def isLineCharacter (character : Char) : Bool :=
  character == '\t' || (0x20 ≤ character.toNat && character != '\x7F')

/-- Whether a text holds only characters of lines, and line ends where it may go
over several lines. -/
def isContent (severalLines : Bool) : List Char → Bool
  | [] => true
  | '\r' :: '\n' :: rest => severalLines && isContent severalLines rest
  | '\n' :: rest => severalLines && isContent severalLines rest
  | character :: rest => isLineCharacter character && isContent severalLines rest

/-- What follows an end of a line, if the text begins with one. -/
def afterLineEnd? : List Char → Option (List Char)
  | '\n' :: rest => some rest
  | '\r' :: '\n' :: rest => some rest
  | _ => none

/-- The character with a hexadecimal code, if there is one. -/
def codedCharacter? (code : List Char) : Option Char :=
  (number? 16 code).bind charOfCode?

/-- What an escape stands for, from behind its backslash, and the rest of the
text. At the end of a line the escape stands for nothing, together with all
white space and line ends after it. -/
def readEscape? (severalLines : Bool) (text : List Char) : Option (List Char × List Char) :=
  match text with
  | [] => none
  | character :: rest =>
      match character with
      | 'b' => some (['\x08'], rest)
      | 't' => some (['\t'], rest)
      | 'n' => some (['\n'], rest)
      | 'f' => some (['\x0c'], rest)
      | 'r' => some (['\r'], rest)
      | 'e' => some (['\x1b'], rest)
      | '"' => some (['"'], rest)
      | '\\' => some (['\\'], rest)
      | 'x' => if rest.length < 2 then none
          else (codedCharacter? (rest.take 2)).map fun named => ([named], rest.drop 2)
      | 'u' => if rest.length < 4 then none
          else (codedCharacter? (rest.take 4)).map fun named => ([named], rest.drop 4)
      | 'U' => if rest.length < 8 then none
          else (codedCharacter? (rest.take 8)).map fun named => ([named], rest.drop 8)
      | _ =>
          if severalLines && (afterLineEnd? (text.dropWhile isSpace)).isSome then
            some ([], text.dropWhile fun next => isSpace next || next == '\n' || next == '\r')
          else none

/-- What follows an escape is no longer than what was read, which is why resolving
escapes ends. -/
theorem readEscape?_shorter {severalLines : Bool} {text decoded rest : List Char}
    (read : readEscape? severalLines text = some (decoded, rest)) :
    rest.length ≤ text.length := by
  cases text with
  | nil => cases read
  | cons character tail =>
      simp only [readEscape?] at read
      split at read
      all_goals try (obtain ⟨-, rfl⟩ := Prod.mk.inj (Option.some.inj read); simp)
      · split at read
        · cases read
        · obtain ⟨named, -, same⟩ := Option.map_eq_some_iff.mp read
          obtain ⟨-, rfl⟩ := Prod.mk.inj same
          simp only [List.length_drop, List.length_cons]
          omega
      · split at read
        · cases read
        · obtain ⟨named, -, same⟩ := Option.map_eq_some_iff.mp read
          obtain ⟨-, rfl⟩ := Prod.mk.inj same
          simp only [List.length_drop, List.length_cons]
          omega
      · split at read
        · cases read
        · obtain ⟨named, -, same⟩ := Option.map_eq_some_iff.mp read
          obtain ⟨-, rfl⟩ := Prod.mk.inj same
          simp only [List.length_drop, List.length_cons]
          omega
      · split at read
        · obtain ⟨-, rfl⟩ := Prod.mk.inj (Option.some.inj read)
          exact (List.dropWhile_sublist _).length_le
        · cases read

/-- A content with its escapes resolved, unless one of them stands for nothing. -/
def unescape? (severalLines : Bool) (text : List Char) : Option (List Char) :=
  match text with
  | [] => some []
  | character :: rest =>
      if character = '\\' then
        match _read : readEscape? severalLines rest with
        | none => none
        | some (decoded, after) => (unescape? severalLines after).map (decoded ++ ·)
      else (unescape? severalLines rest).map (character :: ·)
termination_by text.length
decreasing_by
  · have := readEscape?_shorter _read
    rw [List.length_cons]
    omega
  · simp

/-- A text up to the next double quote without a backslash before it, and the
rest after the quote. While `skip` is set the first character is passed over. -/
def untilQuote? (skip : Bool) : List Char → Option (List Char × List Char)
  | [] => none
  | character :: rest =>
      if !skip && character == '"' then some ([], rest)
      else
        (untilQuote? (!skip && character == '\\') rest).map fun (content, after) =>
          (character :: content, after)

/-- A text up to the next three double quotes without a backslash before them,
and the rest after them. -/
def untilQuotes? (skip : Bool) : List Char → Option (List Char × List Char)
  | [] => none
  | character :: rest =>
      match skip, afterStart? ['"', '"', '"'] (character :: rest) with
      | false, some after => some ([], after)
      | _, _ =>
          (untilQuotes? (!skip && character == '\\') rest).map fun (content, after) =>
            (character :: content, after)

/-- At most two quotes at the front of a rest, which still belong to the text
before the closing quotes. -/
def moveQuotes (quote : Char) (content rest : List Char) : List Char × List Char :=
  let extra := ((rest.take 2).takeWhile (· == quote)).length
  (content ++ rest.take extra, rest.drop extra)

/-- The content of a text over several lines. An end of a line right behind the opening
quotes is no part of it. -/
def withoutFirstLineEnd (text : List Char) : List Char :=
  (afterLineEnd? text).getD text

/-- The content of a quoted text, when its characters are allowed. -/
def checkedContent? (severalLines escapes : Bool) (content : List Char) : Option (List Char) :=
  if isContent severalLines content then
    if escapes then unescape? severalLines content else some content
  else none

/-- A text in quotes of one line. Only between double quotes are there escapes. -/
def readQuoted? : List Char → Option (List Char × List Char)
  | '"' :: rest =>
      (untilQuote? false rest).bind fun (content, after) =>
        (checkedContent? false true content).map (·, after)
  | '\'' :: rest =>
      (splitFirst? ['\''] rest).bind fun (content, after) =>
        (checkedContent? false false content).map (·, after)
  | _ => none

/-- A text in quotes, which may be tripled ones. -/
def readText? (text : List Char) : Option (List Char × List Char) :=
  match afterStart? ['"', '"', '"'] text with
  | some body =>
      (untilQuotes? false (withoutFirstLineEnd body)).bind fun (content, after) =>
        let (content, after) := moveQuotes '"' content after
        (checkedContent? true true content).map (·, after)
  | none =>
      match afterStart? ['\'', '\'', '\''] text with
      | some body =>
          (splitFirst? ['\'', '\'', '\''] (withoutFirstLineEnd body)).bind fun (content, after) =>
            let (content, after) := moveQuotes '\'' content after
            (checkedContent? true false content).map (·, after)
      | none => readQuoted? text

/-- A character in double quotes. A line feed stands for itself where the text
may go over several lines. -/
def escapeCharacter (severalLines : Bool) (character : Char) : List Char :=
  if character = '\x08' then ['\\', 'b']
  else if character = '\t' then ['\\', 't']
  else if character = '\n' then if severalLines then ['\n'] else ['\\', 'n']
  else if character = '\x0c' then ['\\', 'f']
  else if character = '\r' then ['\\', 'r']
  else if character = '"' then if severalLines then ['"'] else ['\\', '"']
  else if character = '\\' then ['\\', '\\']
  else if character.toNat < 0x20 ∨ character = '\x7F' then
    let code := (hexadecimal character.toNat).map Char.toUpper
    ['\\', 'u'] ++ List.replicate (4 - code.length) '0' ++ code
  else [character]

/-- A text in three double quotes with its escapes. Of three double quotes in a
row the last is escaped. -/
def escapeLines (quotes : Nat) : List Char → List Char
  | [] => []
  | character :: rest =>
      if character = '"' then
        if quotes = 2 then '\\' :: '"' :: escapeLines 0 rest
        else '"' :: escapeLines (quotes + 1) rest
      else escapeCharacter true character ++ escapeLines 0 rest

/-- The number of quotes in the longest run of them. -/
def longestRun (quote : Char) (current longest : Nat) : List Char → Nat
  | [] => max current longest
  | character :: rest =>
      if character = quote then longestRun quote (current + 1) longest rest
      else longestRun quote 0 (max current longest) rest

/-- Whether a character can only be written by an escape. -/
def needsEscape (character : Char) : Bool :=
  (character.toNat < 0x20 && character != '\t' && character != '\n') || character == '\x7F'

/-- A text in quotes: in double quotes, single quotes, three double or three
single quotes, whichever of these comes first and does without escapes; else
in double quotes with escapes, three of them if it has line feeds. -/
def quote (text : List Char) : List Char :=
  let coded := text.any needsEscape
  let lines := text.contains '\n'
  let slashes := text.contains '\\'
  let doubles := longestRun '"' 0 0 text
  let singles := longestRun '\'' 0 0 text
  let inDouble := ['"'] ++ text.flatMap (escapeCharacter false) ++ ['"']
  let opening := if lines then ['\n'] else []
  let inDoubles := ['"', '"', '"'] ++ opening ++ escapeLines 0 text ++ ['"', '"', '"']
  let inSingles := ['\'', '\'', '\''] ++ opening ++ text ++ ['\'', '\'', '\'']
  if !coded && !slashes && doubles == 0 && !lines then inDouble
  else if !coded && singles == 0 && !lines then ['\''] ++ text ++ ['\'']
  else if !coded && !slashes && doubles ≤ 2 then inDoubles
  else if !coded && singles ≤ 2 then inSingles
  else if lines then inDoubles
  else inDouble

end IssueSync.Toml
