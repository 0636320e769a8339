import IssueSync.Text.SystemText

/-! # Libraries

Documents and settings are read, placeholders found and arguments sorted out with
libraries. What these accept, and what they make of it, is laid down where it is used.
How they word what they refuse is left open here, and so is between which delimiters
they do not look for placeholders: their patterns have a limit of size (`Libraries`).
-/

namespace IssueSync

/-- What is left to the libraries that the program uses. -/
class Libraries where
  /-- Why a text is no document. -/
  documentReason : String → String
  /-- Why a text holds no settings. -/
  settingsReason : String → String
  /-- Why placeholders between two delimiters cannot be found, if they cannot. -/
  delimiterReason? : (opening closing : String) → Option String
  /-- Between percent signs placeholders are found. -/
  delimiterReason?_percent : delimiterReason? "%" "%" = none
  /-- What the user is told of arguments that fit no command. -/
  usage : List SystemText → String

namespace Libraries

/-- How large a pattern may be, in bytes. -/
def patternLimit : Nat := 10485760

/-- What a pattern needs for each byte that it looks for. -/
def stateSize : Nat := 32

/-- Whether delimiters make a pattern too large. What the pattern needs besides them is
small and not counted. -/
def isOversized (opening closing : String) : Bool :=
  patternLimit < stateSize * (opening.utf8ByteSize + closing.utf8ByteSize)

/-- Libraries that refuse delimiters for their size alone, and otherwise say no more
than that something is refused. -/
@[reducible]
def sizeLimited : Libraries where
  documentReason _ := "not a well-formed document"
  settingsReason _ := "not a text of settings"
  delimiterReason? opening closing :=
    if isOversized opening closing then
      some s!"Compiled regex exceeds size limit of {patternLimit} bytes."
    else none
  delimiterReason?_percent := by decide
  usage _ := "The arguments do not fit any command"

end Libraries

end IssueSync
