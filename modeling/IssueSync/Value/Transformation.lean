import IssueSync.Value.Html
import IssueSync.Value.TagName

/-! # Transformations by name -/

namespace IssueSync

/-- A transformation of a field value that can be asked for by name. -/
inductive Transformation where
  | encodeTag
  | escapeHtml
  | toHtml
  deriving DecidableEq, Repr

namespace Transformation

/-- The word for a transformation on the command line. -/
def name : Transformation → String
  | encodeTag => "encode-tag"
  | escapeHtml => "escape-html"
  | toHtml => "to-html"

/-- All transformations, in the order in which they are offered. -/
def all : List Transformation := [encodeTag, escapeHtml, toHtml]

/-- The transformation with a name. -/
def ofName? (name : String) : Option Transformation :=
  all.find? fun transformation => transformation.name = name

/-- The transformed text. -/
def apply : Transformation → String → String
  | encodeTag => TagName.encode
  | escapeHtml => Html.escape
  | toHtml => Html.breakLines

end Transformation

end IssueSync
