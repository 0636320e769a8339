import IssueSync.Text.SystemText

/-! # Arguments of commands

The arguments of a command are options with values, operands, and perhaps the
name of a further command that takes all arguments after it. An argument that
begins with a hyphen is an option unless it is the hyphen alone or stands
behind two hyphens. Values and operands can be any bytes.
-/

namespace IssueSync

/-- An option, which takes a value and is given once at most. -/
structure OptionRule where
  name : String
  letter : Option Char := none
  mayBeEmpty : Bool := false
  deriving DecidableEq, Repr

/-- What arguments a command takes. -/
structure Grammar where
  options : List OptionRule := []
  /-- The largest number of operands. -/
  operands : Nat := 0
  operandsMayBeEmpty : Bool := false
  /-- The names of further commands. -/
  commands : List String := []
  deriving DecidableEq, Repr

/-- Arguments, sorted out. -/
structure Arguments where
  /-- The options given, with their values. -/
  options : List (String × SystemText) := []
  operands : List SystemText := []
  /-- A further command and its arguments. -/
  command : Option (String × List SystemText) := none
  deriving DecidableEq, Repr, Inhabited

namespace Arguments

/-- The value of the option with a name, if it was given. -/
def value? (arguments : Arguments) (name : String) : Option SystemText :=
  arguments.options.lookup name

/-- The arguments with an option in front of them. -/
def addOption? (rule : OptionRule) (value : SystemText) (arguments : Arguments) :
    Option Arguments :=
  if (value = .ofText "" ∧ !rule.mayBeEmpty) ∨ (arguments.value? rule.name).isSome then none
  else some { arguments with options := (rule.name, value) :: arguments.options }

/-- The arguments with an operand in front of them. -/
def addOperand? (grammar : Grammar) (operand : SystemText) (arguments : Arguments) :
    Option Arguments :=
  if (operand = .ofText "" ∧ !grammar.operandsMayBeEmpty) ∨
      grammar.operands ≤ arguments.operands.length then none
  else some { arguments with operands := operand :: arguments.operands }

/-- An option as it is written: its rule, and its value when that is in the same
argument. -/
inductive Written where
  | option (rule : OptionRule) (value : Option SystemText)
  | unknown
  | operand
  deriving Repr

/-- What options begin with. -/
def hyphen : UInt8 := '-'.toUInt8

/-- What parts an option from its value. -/
def equalsSign : UInt8 := '='.toUInt8

/-- The option with a name, which is everything up to an equals sign. The value is what
comes after that. -/
def readNamed (grammar : Grammar) (body : List UInt8) : Written :=
  let name : SystemText := ⟨body.takeWhile (· ≠ equalsSign)⟩
  match grammar.options.find? fun rule => .ofText rule.name = name with
  | none => .unknown
  | some rule =>
      match body.dropWhile (· ≠ equalsSign) with
      | [] => .option rule none
      | _ :: value => .option rule (some ⟨value⟩)

/-- The option with a letter. The value is what comes after the letter, without an
equals sign in front. -/
def readLettered (grammar : Grammar) (letter : UInt8) (body : List UInt8) : Written :=
  match grammar.options.find? fun rule => rule.letter.map Char.toUInt8 = some letter with
  | none => .unknown
  | some rule =>
      match body with
      | [] => .option rule none
      | first :: value =>
          .option rule (some ⟨if first = equalsSign then value else first :: value⟩)

/-- How an argument reads that is not behind two hyphens. -/
def read (grammar : Grammar) (argument : SystemText) : Written :=
  match argument.bytes with
  | first :: second :: body =>
      if first ≠ hyphen then .operand
      else if second = hyphen then readNamed grammar body
      else readLettered grammar second body
  | _ => .operand

/-- Whether an argument can be the value of the option before it. -/
def isValue (argument : SystemText) : Bool :=
  argument = .ofText "-" || argument.bytes.head? != some hyphen

/-- Arguments sorted out by a grammar. Behind two hyphens, `plain` is set and
every argument is an operand. -/
def parse? (grammar : Grammar) (plain : Bool) : List SystemText → Option Arguments
  | [] => some {}
  | argument :: rest =>
      if plain then (parse? grammar plain rest).bind (addOperand? grammar argument)
      else
        match grammar.commands.find? fun name => argument = .ofText name with
        | some name => some { command := some (name, rest) }
        | none =>
            if argument = .ofText "--" then parse? grammar true rest
            else
              match read grammar argument with
              | .unknown => none
              | .operand => (parse? grammar plain rest).bind (addOperand? grammar argument)
              | .option rule (some value) =>
                  (parse? grammar plain rest).bind (addOption? rule value)
              | .option rule none =>
                  match rest with
                  | [] => none
                  | value :: more =>
                      if isValue value then
                        (parse? grammar plain more).bind (addOption? rule value)
                      else none

end Arguments

end IssueSync
