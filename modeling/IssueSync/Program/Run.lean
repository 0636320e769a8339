import IssueSync.Program.Invocation
import IssueSync.Program.Logging
import IssueSync.Text.Blank

/-! # Running the program

The program reads its settings, does what it is asked, and ends with an exit
code: two when the arguments or the settings cannot be used, one when the
command fails, zero otherwise. Only then does it print, and only `init` writes a
file. Failures of the settings and of the command are told as far as
the filter for log output lets them through.
-/

namespace IssueSync

open Files

/-- How a run ends. -/
structure Outcome where
  code : Nat
  /-- What goes to the standard output. -/
  output : String := ""
  /-- What goes to the user in words when the run fails. -/
  complaint : String := ""
  deriving DecidableEq, Repr

/-- The end of a run that succeeds with a text: blank characters at its end go,
and a line feed comes. -/
def Outcome.success (text : String) : Outcome where
  code := 0
  output := Text.trimEnd text ++ "\n"

/-- The end of a run that fails. -/
def Outcome.failure (code : Nat) (complaint : String) : Outcome where
  code := code
  complaint := complaint

/-- The outcome with its complaint, or without when it is kept back. -/
def Outcome.toldIf (outcome : Outcome) : (told : Bool) → Outcome
  | true => outcome
  | false => { outcome with complaint := "" }

variable [Libraries] {m : Type → Type} [Monad m] [FileAccess m]

/-- Do what is asked, under the settings in effect. -/
def Request.execute (settings : Settings) : Request → m (Except Failure String)
  | .document command file => do
      match settings.documentFor file with
      | .error failure => return .error failure
      | .ok path => command.run path
  | .transform transformation text => return .ok (transformation.apply text)
  | .init path named => do
      match ← Settings.save { document := named } path with
      | .error failure => return .error failure
      | .ok () => return .ok ("Settings written to " ++ path.shown)

/-- Run the program with its arguments sorted out. -/
def Invocation.run (filters : LogFilters) (logVariable : Option String)
    (invocation : Invocation) : m Outcome := do
  match ← Settings.inEffect invocation.settings with
  | .error failure =>
      return (Outcome.failure 2 failure.message).toldIf (filters.tellsFailures logVariable {})
  | .ok settings =>
      match ← invocation.request.execute settings with
      | .error failure =>
          return (Outcome.failure 1 failure.message).toldIf
            (filters.tellsFailures logVariable settings)
      | .ok text => return .success text

/-- Run the program with its arguments and what the environment variable for the
filter of log output holds, if it is set. -/
def runProgramLogged (filters : LogFilters) (logVariable : Option String)
    (words : List SystemText) : m Outcome := do
  match Invocation.parse? words with
  | none => return .failure 2 (Libraries.usage words)
  | some invocation => invocation.run filters logVariable

/-- Run the program with its arguments, all failures told. -/
def runProgram (words : List SystemText) : m Outcome :=
  runProgramLogged .transparent none words

end IssueSync
