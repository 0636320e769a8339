import IssueSync.Files.Path

/-! # Directories

A directory as a value: the contents of its files by their locations, and the
folders that were made. A folder is there as soon as something is inside it. There
are no links, so what stands at a location stands nowhere else.

Reading and writing fail for the reasons that a file system gives. What it refuses
for lack of permission, and which file it stops writing to because the device is full
or broken, belongs to the directory as well (`Conditions`).
-/

namespace IssueSync.Files

/-- Why a file could not be used. -/
inductive Fault where
  | notFound
  | alreadyExists
  | notADirectory
  | isADirectory
  | permissionDenied
  /-- The content is no text. -/
  | notUtf8
  /-- A name holds the null character. -/
  | invalidName
  | nameTooLong
  /-- Anything else, such as a full device. -/
  | other (text : String)
  deriving DecidableEq, Repr

/-- The fault in words. -/
def Fault.message : Fault → String
  | notFound => "No such file or directory (os error 2)"
  | alreadyExists => "File exists (os error 17)"
  | notADirectory => "Not a directory (os error 20)"
  | isADirectory => "Is a directory (os error 21)"
  | permissionDenied => "Permission denied (os error 13)"
  | notUtf8 => "stream did not contain valid UTF-8"
  | invalidName => "file name contained an unexpected NUL byte"
  | nameTooLong => "File name too long (os error 36)"
  | other text => text

/-- What stands at a location. -/
inductive Kind where
  | file (content : ByteArray)
  | folder

/-! ### Conditions of use -/

/-- What is asked of the file or folder at a location. -/
inductive Access where
  /-- To look up a name in a folder. -/
  | search
  /-- To read a file, or what is in a folder. -/
  | read
  /-- To change a file, or what is in a folder. -/
  | change
  deriving DecidableEq, Repr

/-- How far files and folders can be used. Where nothing is said they can. -/
structure Conditions where
  /-- Why an access is refused, if it is. -/
  refuses? : Access → Location → Option Fault := fun _ _ => none
  /-- After how many bytes a file takes no more, if it ever does, and why. -/
  breaksOff? : Location → Option (Nat × Fault) := fun _ => none
  deriving Inhabited

namespace Conditions

/-- A result, unless access to a location is refused. -/
def grant {Result : Type} (conditions : Conditions) (access : Access) (location : Location)
    (result : Result) : Except Fault Result :=
  match conditions.refuses? access location with
  | some fault => .error fault
  | none => .ok result

/-- What a file has taken of the content written to it, and how writing ended. -/
def take (conditions : Conditions) (location : Location) (content : ByteArray) :
    Except Fault Unit × ByteArray :=
  match conditions.breaksOff? location with
  | some (count, fault) =>
      if count < content.size then (.error fault, content.extract 0 count) else (.ok (), content)
  | none => (.ok (), content)

end Conditions

/-! ### Directories as values -/

/-- The files and folders that a program can use, and the directory it works in. -/
structure Directory where
  /-- The location of the working directory. -/
  working : Location := ⟨[.ofText "work"]⟩
  files : List (Location × ByteArray) := []
  folders : List Location := []
  conditions : Conditions := {}
  deriving Inhabited

/-- How many bytes a name may have. -/
def longestName : Nat := 255

/-- How many bytes a path may have. -/
def longestPath : Nat := 4095

/-- Why a path is refused before it is looked up, if it is. The empty path leads
nowhere. -/
def refusal? (path : Path) : Option Fault :=
  if path.isInvalid then some .invalidName
  else if path.segments = [.ofText ""] then some .notFound
  else if longestPath < path.text.bytes.length then some .nameTooLong
  else none

namespace Directory

/-- The folders that are there although nothing may be in them. -/
def standing (directory : Directory) : List Location :=
  directory.working :: directory.folders

/-- What stands at a location, if anything does. -/
def kindAt? (directory : Directory) (location : Location) : Option Kind :=
  match directory.files.lookup location with
  | some content => some (.file content)
  | none =>
      if location.names.isEmpty || directory.standing.contains location ||
          directory.files.any (fun file => file.1.isBelow location) ||
          directory.standing.any (fun folder => folder.isBelow location) then some .folder
      else none

/-- The location that a segment leads to from a folder. A segment that is a name, or
dots in place of one, is looked up in the folder. -/
def lookUp (directory : Directory) (folder : Location) (segment : SystemText) :
    Except Fault Location :=
  if segment = .ofText "" then .ok folder
  else
    match directory.conditions.refuses? .search folder with
    | some fault => .error fault
    | none =>
        if longestName < segment.bytes.length then .error .nameTooLong
        else .ok (folder.enter segment)

/-- The location that segments lead to. All but the last have to lead to
folders. -/
def walk (directory : Directory) (location : Location) : List SystemText → Except Fault Location
  | [] => .ok location
  | segment :: rest =>
      match directory.kindAt? location with
      | none => .error .notFound
      | some (.file _) => .error .notADirectory
      | some .folder =>
          match directory.lookUp location segment with
          | .error fault => .error fault
          | .ok next => directory.walk next rest

/-- The location of a path. -/
def locate (directory : Directory) (path : Path) : Except Fault Location :=
  match refusal? path with
  | some fault => .error fault
  | none => directory.walk (path.start directory.working) path.segments

/-- What a path leads to, if it leads anywhere. -/
def find? (directory : Directory) (path : Path) : Option Kind :=
  match directory.locate path with
  | .ok location => directory.kindAt? location
  | .error _ => none

/-- Whether something stands at a path, as far as can be found out. -/
def has (directory : Directory) (path : Path) : Bool :=
  (directory.find? path).isSome

/-- Whether a folder stands at a path. -/
def isFolder (directory : Directory) (path : Path) : Bool :=
  match directory.find? path with
  | some .folder => true
  | _ => false

/-- The content of the file at a path. A folder can be opened for reading, but has no
content. -/
def read (directory : Directory) (path : Path) : Except Fault ByteArray :=
  match directory.locate path with
  | .error fault => .error fault
  | .ok location =>
      match directory.kindAt? location with
      | none => .error .notFound
      | some (.file content) => directory.conditions.grant .read location content
      | some .folder =>
          match directory.conditions.refuses? .read location with
          | some fault => .error fault
          | none => .error .isADirectory

/-- The directory with a file in the place of what may have stood at a location. -/
def setFile (directory : Directory) (location : Location) (content : ByteArray) : Directory :=
  { directory with
    files := (location, content) :: directory.files.filter fun file => file.1 ≠ location }

/-- The directory with these files, by paths from the working directory. -/
def ofFiles (files : List (String × ByteArray)) : Directory :=
  files.foldl (fun directory (path, content) =>
    directory.setFile ((Path.ofText path).location directory.working) content) {}

/-- The location of a file to be written. A path that ends in a slash names a
folder, whatever its last name is. -/
def locateFile (directory : Directory) (path : Path) : Except Fault Location :=
  if path.endsInSlash ∧ refusal? path = none then
    match directory.walk (path.start directory.working)
        (path.segmentsBeforeLast ++ [.ofText "."]) with
    | .error fault => .error fault
    | .ok _ => .error .isADirectory
  else directory.locate path

/-- The location of a file that was opened for writing. Where there is none yet, the
folder around has to take it. -/
def openFile (directory : Directory) (path : Path) : Except Fault Location :=
  match directory.locateFile path with
  | .error fault => .error fault
  | .ok location =>
      match directory.kindAt? location with
      | some .folder => .error .isADirectory
      | some (.file _) => directory.conditions.grant .change location location
      | none => directory.conditions.grant .change location.parent location

/-- Write content to the file at a path. The file is opened first, which leaves it
empty, and then takes what it can: when it does not take everything, what stood in it
before is gone all the same. -/
def write (directory : Directory) (path : Path) (content : ByteArray) :
    Except Fault Unit × Directory :=
  match directory.openFile path with
  | .error fault => (.error fault, directory)
  | .ok location =>
      let emptied := directory.setFile location .empty
      let (result, taken) := directory.conditions.take location content
      (result, emptied.setFile location taken)

/-- The directory after a folder was made at a path where nothing stood. -/
def makeFolder (directory : Directory) (path : Path) : Except Fault Directory :=
  match directory.locate path with
  | .error fault => .error fault
  | .ok location =>
      if (directory.kindAt? location).isSome then .error .alreadyExists
      else
        directory.conditions.grant .change location.parent
          { directory with folders := directory.folders ++ [location] }

end Directory

end IssueSync.Files
