import IssueSync.Rule.Template
import IssueSync.Text.Search

/-! # Placeholders in template texts

A placeholder is an opening delimiter, an identifier without line feeds and a
closing delimiter. The text is searched from left to right; a placeholder ends
at the nearest closing delimiter, and the search goes on behind it. A place
from which no closing delimiter is reached before the end of the line holds no
placeholder.
-/

namespace IssueSync

/-- The identifier at the front of `text`, up to the nearest `closing`, and the
rest after that. -/
def readIdentifier? (closing : List Char) : List Char → Option (List Char × List Char)
  | [] => if closing.isEmpty then some ([], []) else none
  | character :: rest =>
      match Text.afterStart? closing (character :: rest) with
      | some after => some ([], after)
      | none =>
          if character = '\n' then none
          else (readIdentifier? closing rest).map fun (id, after) => (character :: id, after)

/-- The identifier of the placeholder at the front of `text` and the rest after
the placeholder. -/
def readPlaceholder? (opening closing text : List Char) : Option (List Char × List Char) :=
  (Text.afterStart? opening text).bind (readIdentifier? closing)

/-- The identifiers of the placeholders in `text`. A placeholder without any
characters is found once between every two characters. -/
def placeholderIds (opening closing text : List Char) : List (List Char) :=
  match readPlaceholder? opening closing text, text with
  | none, [] => []
  | none, _ :: tail => placeholderIds opening closing tail
  | some (id, _), [] => [id]
  | some (id, rest), _ :: tail =>
      if rest.length ≤ tail.length then id :: placeholderIds opening closing rest
      else id :: placeholderIds opening closing tail
termination_by text.length
decreasing_by all_goals simp_all; try omega

/-- A placeholder found in a template text. -/
structure Occurrence where
  /-- The placeholder with its delimiters. -/
  text : String
  id : String
  deriving DecidableEq, Repr

namespace Template

/-- The placeholders in the text of a template, in text order. Whether its delimiters
can be looked for at all is left to the library that does (`Template.refusal?`). -/
def occurrences (template : Template) : List Occurrence :=
  (placeholderIds template.opening.toList template.closing.toList template.text.toList).map
    fun id => ⟨template.placeholder (String.ofList id), String.ofList id⟩

end Template

end IssueSync
