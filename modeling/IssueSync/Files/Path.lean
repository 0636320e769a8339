import IssueSync.Text.SystemText

/-! # Paths

A path is read as the segments between its slashes. Looking it up starts in the
working directory, or at the root when the path begins with a slash, and takes
one segment after the other. It leads to a location, and a location has one name for
each directory from the root on, whatever path led there.
-/

namespace IssueSync.Files

/-- A place among the directories, by the names that lead there from the root. -/
structure Location where
  names : List SystemText
  deriving DecidableEq, Repr, Inhabited

namespace Location

/-- The location that all others are below. -/
def root : Location := ⟨[]⟩

/-- The location of the directory around. The root is in itself. -/
def parent (location : Location) : Location :=
  ⟨location.names.dropLast⟩

/-- The location that a segment leads to. An empty segment and a dot stay. -/
def enter (location : Location) (segment : SystemText) : Location :=
  if segment = .ofText "" ∨ segment = .ofText "." then location
  else if segment = .ofText ".." then location.parent
  else ⟨location.names ++ [segment]⟩

/-- Whether a location is inside another one, at any depth. -/
def isBelow (location other : Location) : Bool :=
  other.names.isPrefixOf location.names && other.names.length < location.names.length

end Location

/-- The byte between the segments of a path. -/
def slash : UInt8 := '/'.toUInt8

/-- The bytes between slashes. -/
def segmentsOf : List UInt8 → List (List UInt8)
  | [] => [[]]
  | byte :: rest =>
      match segmentsOf rest with
      | [] => [[byte]]
      | first :: more => if byte = slash then [] :: first :: more else (byte :: first) :: more

/-- Where a path is looked up from: the working directory or the root. -/
inductive Base where
  | working
  | root
  deriving DecidableEq, Repr

/-- A path, taken apart. -/
structure Path where
  base : Base
  segments : List SystemText
  deriving DecidableEq, Repr

namespace Path

/-- The path that a text is read as. -/
def ofText (text : SystemText) : Path where
  base := if text.bytes.head? = some slash then .root else .working
  segments := (segmentsOf text.bytes).map SystemText.mk

/-- Whether a name holds the null character, which no file system allows. -/
def isInvalid (path : Path) : Bool :=
  path.segments.any fun segment => segment.bytes.contains 0

/-- The location where looking the path up starts. -/
def start (path : Path) (working : Location) : Location :=
  match path.base with
  | .working => working
  | .root => .root

/-- Where the segments of the path lead when all of them can be entered. -/
def location (path : Path) (working : Location) : Location :=
  path.segments.foldl Location.enter (path.start working)

/-- The segments that count for the directory around a path: no empty ones, and
no dots but one at the very beginning. -/
def parts (path : Path) : List SystemText :=
  let leading := path.segments.takeWhile (· = .ofText ".") |>.take 1
  leading ++ path.segments.filter fun segment => segment ≠ .ofText "" ∧ segment ≠ .ofText "."

/-- The path that leads through these segments. -/
def ofParts (base : Base) (parts : List SystemText) : Path where
  base := base
  segments := if base = .root then .ofText "" :: parts else parts

/-- The path as it is written. -/
def text (path : Path) : SystemText :=
  ⟨[slash].intercalate (path.segments.map SystemText.bytes)⟩

/-- Whether the path is written with a slash at its end. -/
def endsInSlash (path : Path) : Bool :=
  path.segments.length > 1 && path.segments.getLast? = some (.ofText "")

/-- The segments before the last name of a path that ends in slashes. -/
def segmentsBeforeLast (path : Path) : List SystemText :=
  (path.segments.reverse.dropWhile (· = .ofText "")).tail.reverse

end Path

end IssueSync.Files
