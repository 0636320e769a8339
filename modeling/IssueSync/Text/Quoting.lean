import IssueSync.Text.Digits
import IssueSync.Text.Hidden

/-! # Paths in messages

A path in a message stands in double quotes. Double quotes and backslashes in it
are escaped, and characters that do not show are written by their code points.
-/

namespace IssueSync.Text

/-- A character inside a quoted text. Hidden characters are written by their codes. -/
def quotedCharacter (character : Char) : List Char :=
  if character = '\x00' then ['\\', '0']
  else if character = '\t' then ['\\', 't']
  else if character = '\n' then ['\\', 'n']
  else if character = '\r' then ['\\', 'r']
  else if character = '"' ∨ character = '\\' then ['\\', character]
  else if isHidden character then
    ['\\', 'u', '\x7B'] ++ hexadecimal character.toNat ++ ['\x7D']
  else [character]

/-- A text between quotes, with everything written out that cannot be seen. -/
def quoted (text : String) : String :=
  "\"" ++ String.ofList (text.toList.flatMap quotedCharacter) ++ "\""

end IssueSync.Text
