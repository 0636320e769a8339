/-! # Comparison without regard to case

Keywords are compared by their ASCII letters only: `É` and `é` differ, and so
do `K` and the Kelvin sign.
-/

namespace IssueSync.Text

/-- Equality of two strings up to the case of ASCII letters. -/
def sameIgnoringCase (left right : String) : Bool :=
  left.toList.map Char.toLower == right.toList.map Char.toLower

end IssueSync.Text
