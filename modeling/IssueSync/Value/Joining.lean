/-! # Joining texts -/

namespace IssueSync

/-- Two texts one after the other; a missing one adds nothing, and two missing
ones give none. -/
def joinTexts : Option String → Option String → Option String
  | none, none => none
  | some text, none => some text
  | none, some text => some text
  | some first, some second => some (first ++ second)

/-- Each item with a line feed behind it. -/
def listText (items : List String) : String :=
  String.join (items.map (· ++ "\n"))

end IssueSync
