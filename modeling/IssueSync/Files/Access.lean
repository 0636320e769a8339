import IssueSync.Files.Directory

/-! # Access to files

What a program asks of the file system it runs in. A directory value answers
these questions as a state.
-/

namespace IssueSync.Files

/-- The operations on files that a program is made of. -/
class FileAccess (m : Type → Type) where
  /-- Whether something stands at a path. -/
  has : Path → m Bool
  isFolder : Path → m Bool
  read : Path → m (Except Fault ByteArray)
  /-- Make one folder where nothing stands. -/
  makeFolder : Path → m (Except Fault Unit)
  /-- Open a file, which leaves it empty, and write a text to it. -/
  write : Path → String → m (Except Fault Unit)

/-- The directory after an operation on it; unchanged if it failed. -/
def Directory.after (directory : Directory) :
    Except Fault Directory → Except Fault Unit × Directory
  | .ok changed => (.ok (), changed)
  | .error fault => (.error fault, directory)

/-- A directory as a state answers for itself; only writing can change it and fail. -/
instance : FileAccess (StateM Directory) where
  has path := fun directory => (directory.has path, directory)
  isFolder path := fun directory => (directory.isFolder path, directory)
  read path := fun directory => (directory.read path, directory)
  makeFolder path := fun directory => directory.after (directory.makeFolder path)
  write path content := fun directory => directory.write path content.toUTF8

variable {m : Type → Type} [Monad m] [FileAccess m]

/-- The text of the file at a path. -/
def readText (path : Path) : m (Except Fault String) := do
  match ← FileAccess.read path with
  | .error fault => return .error fault
  | .ok content =>
      match String.fromUTF8? content with
      | some text => return .ok text
      | none => return .error .notUtf8

/-- Make a folder, if none is there yet. -/
def ensureFolder (path : Path) : m (Except Fault Unit) := do
  match ← FileAccess.makeFolder path with
  | .ok () => return .ok ()
  | .error fault => if ← FileAccess.isFolder path then return .ok () else return .error fault

/-- Make the folder that parts lead to, given last part first. Only when it is
missing because of a folder around it, that one is made before; what stands in
the way is met by whichever folder comes right up to it. -/
def makeFolders (base : Base) : (parts : List SystemText) → m (Except Fault Unit)
  | [] => return .ok ()
  | last :: before => do
      let path := Path.ofParts base (last :: before).reverse
      match ← ensureFolder path with
      | .error .notFound =>
          match ← makeFolders base before with
          | .error fault => return .error fault
          | .ok () => ensureFolder path
      | result => return result

/-- Make the folders around the last part of a path, as far as they are missing. -/
def makeFoldersAround (path : Path) : m (Except Fault Unit) :=
  makeFolders path.base path.parts.reverse.tail

end IssueSync.Files
