import IssueSync.Program.Settings
import IssueSync.Text.LetterCase

/-! # Log output

What the program says of a failure is log output and goes through a filter: the one
in an environment variable, where that holds one, or else the one of the settings.
How filters are written is not laid down here (`LogFilters`).
-/

namespace IssueSync

/-- The environment variable for the filter of log output. -/
def logFilterVariable : String := "SYNC_CONFIG_LOG"

/-- How filters of log output are read. Of a filter it matters whether it lets
failures through. -/
structure LogFilters where
  /-- Whether the filter that a text holds lets failures through; nothing for a
  malformed text. -/
  read? : String → Option Bool
  /-- The same for the filter that is left when malformed parts are passed over. -/
  readLoosely : String → Bool

namespace LogFilters

/-- No filter keeps failures back. -/
def transparent : LogFilters where
  read? _ := some true
  readLoosely _ := true

/-- Filters that are the name of a level. Only `off` keeps failures back. -/
def levels : LogFilters where
  read? text :=
    if Text.sameIgnoringCase text "off" then some false
    else if ["error", "warn", "info", "debug", "trace"].any (Text.sameIgnoringCase text) then
      some true
    else none
  readLoosely text := !Text.sameIgnoringCase text "off"

/-- Whether failures are told under the settings in effect. The variable goes before
the settings, unless what it holds is malformed. -/
def tellsFailures (filters : LogFilters) (logVariable : Option String) (settings : Settings) :
    Bool :=
  (logVariable.bind filters.read?).getD (filters.readLoosely settings.effectiveLogFilter)

end LogFilters

end IssueSync
