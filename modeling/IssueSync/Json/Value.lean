import IssueSync.Text.Digits

/-! # JSON texts

A JSON value without numbers, and its two layouts: compact, without white
space, and pretty, indented by two spaces with one entry a line. Strings
escape only what has to be escaped.
-/

namespace IssueSync

/-- A JSON value; the entries of a record keep their order. -/
inductive Json where
  | null
  | flag (value : Bool)
  | text (value : String)
  | list (items : List Json)
  | record (entries : List (String × Json))
  deriving Repr, Inhabited

namespace Json

/-- A character inside quotes. Control characters without a short form are written as four
hexadecimal digits; everything else above them stays. -/
def escapeCharacter (character : Char) : List Char :=
  if character = '"' then ['\\', '"']
  else if character = '\\' then ['\\', '\\']
  else if character = '\x08' then ['\\', 'b']
  else if character = '\x0c' then ['\\', 'f']
  else if character = '\n' then ['\\', 'n']
  else if character = '\r' then ['\\', 'r']
  else if character = '\t' then ['\\', 't']
  else if character.toNat < 0x10 then
    ['\\', 'u', '0', '0', '0'] ++ Text.hexadecimal character.toNat
  else if character.toNat < 0x20 then
    ['\\', 'u', '0', '0'] ++ Text.hexadecimal character.toNat
  else [character]

/-- A text between quotes. -/
def quote (text : String) : String :=
  "\"" ++ String.ofList (text.toList.flatMap escapeCharacter) ++ "\""

/-- The literal of a truth value. -/
def writeFlag (value : Bool) : String :=
  if value then "true" else "false"

mutual

/-- A value without any space between its parts. -/
def compact : Json → String
  | null => "null"
  | flag value => writeFlag value
  | text value => quote value
  | list [] => "[]"
  | list (first :: rest) => "[" ++ compact first ++ compactItems rest ++ "]"
  | record [] => "\x7b\x7d"
  | record ((key, value) :: rest) =>
      "\x7b" ++ quote key ++ ":" ++ compact value ++ compactEntries rest ++ "\x7d"

/-- The items behind the first one of a list, each after a comma. -/
def compactItems : List Json → String
  | [] => ""
  | item :: rest => "," ++ compact item ++ compactItems rest

/-- The entries behind the first one of a record, each after a comma. -/
def compactEntries : List (String × Json) → String
  | [] => ""
  | (key, value) :: rest => "," ++ quote key ++ ":" ++ compact value ++ compactEntries rest

end

/-- A line feed and two spaces for each level of nesting. -/
def newLine (level : Nat) : String :=
  String.ofList ('\n' :: List.replicate (2 * level) ' ')

mutual

/-- A value with one entry a line, at a level of indentation. -/
def prettyAt (level : Nat) : Json → String
  | null => "null"
  | flag value => writeFlag value
  | text value => quote value
  | list [] => "[]"
  | list (first :: rest) =>
      "[" ++ newLine (level + 1) ++ prettyAt (level + 1) first ++ prettyItems (level + 1) rest ++
        newLine level ++ "]"
  | record [] => "\x7b\x7d"
  | record ((key, value) :: rest) =>
      "\x7b" ++ newLine (level + 1) ++ quote key ++ ": " ++ prettyAt (level + 1) value ++
        prettyEntries (level + 1) rest ++ newLine level ++ "\x7d"

/-- The items behind the first one of a list, each on a line of its own. -/
def prettyItems (level : Nat) : List Json → String
  | [] => ""
  | item :: rest => "," ++ newLine level ++ prettyAt level item ++ prettyItems level rest

/-- The entries behind the first one of a record, each on a line of its own. -/
def prettyEntries (level : Nat) : List (String × Json) → String
  | [] => ""
  | (key, value) :: rest =>
      "," ++ newLine level ++ quote key ++ ": " ++ prettyAt level value ++
        prettyEntries level rest

end

/-- A value with one item or entry on each line. -/
def pretty (json : Json) : String :=
  prettyAt 0 json

/-- A text that may be absent, which is written as null. -/
def optionalText : Option String → Json
  | none => null
  | some value => text value

end Json

end IssueSync
