/-! # Text as HTML

The characters with a meaning in HTML are replaced by character references one
at a time, and line feeds by the marker for a line break.
-/

namespace IssueSync.Html

/-- What ends a line in HTML. -/
def lineBreak : List Char := ['<', 'B', 'R', '/', '>']

/-- A character as a reference, if it could be read as markup or end an attribute value. -/
def escapeCharacter : Char → List Char
  | '<' => ['&', 'l', 't', ';']
  | '>' => ['&', 'g', 't', ';']
  | '"' => ['&', 'q', 'u', 'o', 't', ';']
  | '&' => ['&', 'a', 'm', 'p', ';']
  | '\'' => ['&', '#', 'x', '2', '7', ';']
  | '\x60' => ['&', '#', 'x', '6', '0', ';']
  | '=' => ['&', '#', 'x', '3', 'D', ';']
  | character => [character]

/-- A text as it is written in HTML. -/
def escape (text : String) : String :=
  String.ofList (text.toList.flatMap escapeCharacter)

/-- A text with a tag in the place of each line feed. -/
def breakLines (text : String) : String :=
  String.ofList <| text.toList.flatMap fun character =>
    if character = '\n' then lineBreak else [character]

end IssueSync.Html
