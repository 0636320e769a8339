import IssueSync.Program.Run

/-! # The program

The program on the files of the operating system. What it does is laid down for any
files (`runProgramLogged`). Some things the library does not speak of:

* Log output is left out, apart from whether it tells a failure. So are the texts that
  explain the arguments.
* How libraries word what they refuse, and how large their patterns may be, is a
  parameter (`Libraries`). The limits of the XML parser are an assumption
  (`Xml.Document.parse?`).
* Directories have no links, and nobody else changes them during a run.
* A table gives its projects in order. Going through them in no order has no counterpart.
* Configurations can always be written as JSON, so there is no failure for it.
-/

namespace IssueSync

open Files

/-- The reason an operation failed for, as far as it is one of the usual ones. -/
def faultOf : IO.Error → Fault
  | .noFileOrDirectory .. => .notFound
  | .alreadyExists .. => .alreadyExists
  | .permissionDenied .. => .permissionDenied
  | .inappropriateType _ 20 _ => .notADirectory
  | .inappropriateType _ 21 _ => .isADirectory
  | error => .other (toString error)

/-- The result of an action that may fail. -/
def attempt {Result : Type} (action : IO Result) : IO (Except Fault Result) :=
  tryCatch (Except.ok <$> action) fun error => return .error (faultOf error)

/-- Whether a path can be opened, as far as that depends on what stands there. -/
def opens (text : String) : IO Bool := do
  match ← attempt (IO.FS.Handle.mk text .read) with
  | .error .notFound => return false
  | .error .notADirectory => return false
  | _ => return true

/-- The file system that the program runs in. -/
instance : FileAccess IO where
  has path := opens path.text.shown
  isFolder path := opens (path.text.shown ++ "/.")
  read path := attempt (IO.FS.readBinFile path.text.shown)
  makeFolder path := attempt (IO.FS.createDir path.text.shown)
  write path content := attempt (IO.FS.writeFile path.text.shown content)

/-- Run the program on the files of the operating system. -/
def runLogged (logVariable : Option String) (words : List SystemText) : IO Outcome :=
  letI := Libraries.sizeLimited
  runProgramLogged .levels logVariable words

end IssueSync

/-- Run the program: the output on the standard output, complaints on the
standard error, and the exit code. -/
def main (words : List String) : IO UInt32 := do
  let logVariable ← IO.getEnv IssueSync.logFilterVariable
  let arguments := words.map IssueSync.SystemText.ofText
  let outcome : IssueSync.Outcome ← IssueSync.runLogged logVariable arguments
  IO.print outcome.output
  unless outcome.complaint.isEmpty do
    IO.eprintln ("Error: " ++ outcome.complaint)
  return outcome.code.toUInt32
