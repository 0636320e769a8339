import IssueSync.Text.Digits

/-! # Tag names for property names

ASCII letters and digits stand for themselves; every other character is
written as its code point in base sixteen between two underscores.
-/

namespace IssueSync.TagName

/-- Whether a character stands for itself. -/
def isPlain (character : Char) : Bool :=
  character.isAlphanum

/-- A character of a tag: a plain one stays, others are written by their code between
underscores. -/
def encodeCharacter (character : Char) : List Char :=
  if isPlain character then [character]
  else '_' :: Text.hexadecimal character.toNat ++ ['_']

/-- A name as a tag. -/
def encode (name : String) : String :=
  String.ofList (name.toList.flatMap encodeCharacter)

end IssueSync.TagName
