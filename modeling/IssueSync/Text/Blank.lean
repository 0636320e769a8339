/-! # Blank characters and trimming

A character is blank when it has the Unicode property `White_Space`. Trimming
removes the blank characters at the ends of a text and nothing else; the zero
width space, the byte order mark and the Mongolian vowel separator are not
blank.
-/

namespace IssueSync.Text

/-- The characters with the Unicode property `White_Space`. -/
def isBlank (character : Char) : Bool :=
  let code := character.toNat
  (9 ≤ code && code ≤ 13) || code == 0x20 || code == 0x85 || code == 0xA0 || code == 0x1680 ||
    (0x2000 ≤ code && code ≤ 0x200A) || code == 0x2028 || code == 0x2029 || code == 0x202F ||
    code == 0x205F || code == 0x3000

/-- The text from its first character that is not blank. -/
def dropBlank (text : List Char) : List Char :=
  text.dropWhile isBlank

/-- The text up to its last character that is not blank. -/
def dropBlankEnd (text : List Char) : List Char :=
  (dropBlank text.reverse).reverse

/-- A text without the blank characters at its ends. -/
def trimmed (text : List Char) : List Char :=
  dropBlankEnd (dropBlank text)

/-- The text without the blank characters at both ends. -/
def trim (text : String) : String :=
  String.ofList (trimmed text.toList)

/-- The text without the blank characters at its end. -/
def trimEnd (text : String) : String :=
  String.ofList (dropBlankEnd text.toList)

/-- The trimmed string, or nothing when only blank characters were there. -/
def trimmed? (text : String) : Option String :=
  if trim text = "" then none else some (trim text)

end IssueSync.Text
