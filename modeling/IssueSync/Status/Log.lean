import IssueSync.Rule.Mapping
import IssueSync.Text.Search

/-! # The synchronization status log

The status text of an issue holds at most one section per direction: a marker
line and the trimmed status below it. Sections stand in a fixed order with a
blank line between them. Updating one direction reads the section of the other
from the text and writes both anew.
-/

namespace IssueSync.Status

/-- The line that begins the section of a direction. -/
def marker : Direction → String
  | .inbound => "---Inbound sync---"
  | .outbound => "---Outbound sync---"

/-- The other direction. -/
def opposite : Direction → Direction
  | .inbound => .outbound
  | .outbound => .inbound

/-- The text of the last section of a direction in a status text: from behind
its last marker to the next marker of the other direction, trimmed, unless it
is blank. -/
def sectionText? (direction : Direction) (text : String) : Option String :=
  match Text.afterLast? (marker direction).toList text.toList with
  | none => none
  | some rest =>
      Text.trimmed? <| String.ofList <|
        Text.beforeFirst (marker (opposite direction)).toList rest

/-- The status text with these sections, the inbound one first. -/
def render (inbound outbound : Option String) : String :=
  "\n\n".intercalate <|
    [(Direction.inbound, inbound), (Direction.outbound, outbound)].filterMap
      fun (direction, status) => status.map fun text => marker direction ++ "\n" ++ text

/-- The status text after the status of one direction was set, or removed by a
missing or blank one. -/
def update (current : Option String) (direction : Direction) (status : Option String) : String :=
  let text := current.getD ""
  let fresh := status.bind Text.trimmed?
  match direction with
  | .inbound => render fresh (sectionText? .outbound text)
  | .outbound => render (sectionText? .inbound text) fresh

/-- The status texts after each of a list of updates. -/
def history (current : Option String) : List (Direction × Option String) → List String
  | [] => []
  | (direction, status) :: rest =>
      update current direction status ::
        history (some (update current direction status)) rest

end IssueSync.Status
