import IssueSync.Program.Arguments
import IssueSync.Program.DocumentCommand
import IssueSync.Value.Transformation

/-! # The command line

What the program is asked to do. The option for the settings file may stand
before or behind the name of any command; where it stands at several places the
innermost counts.
-/

namespace IssueSync

/-- What the program is asked to do. -/
inductive Request where
  /-- Run a command on the document given, or on the one of the settings. -/
  | document (command : DocumentCommand) (file : Option SystemText)
  /-- Transform a text. -/
  | transform (transformation : Transformation) (text : String)
  /-- Write a settings file that names a document. -/
  | init (path : SystemText) (document : Option SystemText)
  deriving DecidableEq, Repr

/-- A request with the settings to use. -/
structure Invocation where
  settings : Option SystemText := none
  request : Request
  deriving DecidableEq, Repr

namespace Invocation

/-- The option for the settings file. -/
def settingsOption : OptionRule := { name := "settings" }

/-- The arguments of the program, the first of which that is no option names a command. -/
def topGrammar : Grammar where
  options := [settingsOption]
  commands := ["validate", "projects", "show", "transform", "init"]

/-- The arguments of a command that takes a document and nothing else. -/
def documentGrammar : Grammar where
  options := [settingsOption]
  operands := 1

/-- The arguments of the command that shows the configuration of a project. -/
def showGrammar : Grammar where
  options := [settingsOption, { name := "project", letter := some 'p', mayBeEmpty := true }]
  operands := 1

/-- The arguments of the command for transformations, each of which has a name. -/
def transformGrammar : Grammar where
  options := [settingsOption]
  commands := Transformation.all.map Transformation.name

/-- The arguments of a transformation: the text. -/
def textGrammar : Grammar where
  options := [settingsOption]
  operands := 1
  operandsMayBeEmpty := true

/-- The arguments of the command that writes settings. -/
def initGrammar : Grammar where
  options :=
    [settingsOption, { name := "path", letter := some 'p' },
      { name := "document", letter := some 'd' }]

/-- The settings given with a command, or else those given before it. -/
def innerSettings (arguments : Arguments) (outer : Option SystemText) : Option SystemText :=
  arguments.value? "settings" <|> outer

/-- A command that takes a document and nothing else. -/
def parseDocument? (settings : Option SystemText) (command : DocumentCommand)
    (words : List SystemText) : Option Invocation := do
  let arguments ← Arguments.parse? documentGrammar false words
  return ⟨innerSettings arguments settings, .document command arguments.operands.head?⟩

/-- The command that shows a configuration; it needs a project, and the project has to
be a text. -/
def parseShow? (settings : Option SystemText) (words : List SystemText) : Option Invocation := do
  let arguments ← Arguments.parse? showGrammar false words
  let key ← (arguments.value? "project").bind SystemText.text?
  return ⟨innerSettings arguments settings,
    .document (.configuration key) arguments.operands.head?⟩

/-- The command that transforms a text; it needs the transformation and the
text, which has to be one. -/
def parseTransform? (settings : Option SystemText) (words : List SystemText) :
    Option Invocation := do
  let arguments ← Arguments.parse? transformGrammar false words
  let (name, rest) ← arguments.command
  let transformation ← Transformation.ofName? name
  let inner ← Arguments.parse? textGrammar false rest
  let text ← inner.operands.head?.bind SystemText.text?
  return ⟨innerSettings inner (innerSettings arguments settings), .transform transformation text⟩

/-- The command that writes settings, to the default path where none is given. -/
def parseInit? (settings : Option SystemText) (words : List SystemText) : Option Invocation := do
  let arguments ← Arguments.parse? initGrammar false words
  return ⟨innerSettings arguments settings,
    .init ((arguments.value? "path").getD (.ofText defaultSettingsPath))
      (arguments.value? "document")⟩

/-- The invocation that the arguments of the program ask for. -/
def parse? (words : List SystemText) : Option Invocation := do
  let arguments ← Arguments.parse? topGrammar false words
  let (name, rest) ← arguments.command
  let settings := arguments.value? "settings"
  if name = "validate" then parseDocument? settings .validate rest
  else if name = "projects" then parseDocument? settings .projects rest
  else if name = "show" then parseShow? settings rest
  else if name = "transform" then parseTransform? settings rest
  else parseInit? settings rest

end Invocation

end IssueSync
