import IssueSync.Text.Digits

/-! # Numbers, truth values and dates of TOML

The unquoted values of TOML. Only their form matters here, and that numbers are
not too large.
-/

namespace IssueSync.Toml

open Text

/-- Digits of a base, where single underscores may stand between two of them. -/
def isDigitGroup (base : Nat) : List Char → Bool
  | [] => false
  | [last] => isDigitOf base last
  | digit :: '_' :: rest => isDigitOf base digit && isDigitGroup base rest
  | digit :: rest => isDigitOf base digit && isDigitGroup base rest

/-- A number without its sign. -/
def withoutSign : List Char → List Char
  | '+' :: rest => rest
  | '-' :: rest => rest
  | text => text

/-- A decimal number without sign: no zero stands before another digit. -/
def isDecimal : List Char → Bool
  | ['0'] => true
  | '0' :: _ => false
  | digits => isDigitGroup 10 digits

/-- The number of a digit group, without its underscores. -/
def groupNumber (base : Nat) (digits : List Char) : Nat :=
  (number? base (digits.filter (· != '_'))).getD 0

/-- Whether a whole number of this size can be held: from `-2 ^ 127` up to
`2 ^ 128 - 1`. -/
def holdsWhole (negative : Bool) (magnitude : Nat) : Bool :=
  if negative then magnitude ≤ Nat.pow 2 127 else magnitude < Nat.pow 2 128

/-- A whole number in a base other than ten, which has no sign. -/
def isWholeIn (base : Nat) (digits : List Char) : Bool :=
  isDigitGroup base digits && holdsWhole false (groupNumber base digits)

/-- Whether a text is an integer that can be held. Only decimal ones have a sign. -/
def isInteger : List Char → Bool
  | '0' :: 'x' :: digits => isWholeIn 16 digits
  | '0' :: 'o' :: digits => isWholeIn 8 digits
  | '0' :: 'b' :: digits => isWholeIn 2 digits
  | text =>
      isDecimal (withoutSign text) &&
        holdsWhole (text.head? == some '-') (groupNumber 10 (withoutSign text))

/-- A letter that begins an exponent. -/
def isExponentMark (character : Char) : Bool :=
  character == 'e' || character == 'E'

/-- Whether a text is an exponent, or nothing. -/
def isExponent : List Char → Bool
  | [] => true
  | mark :: rest => isExponentMark mark && isDigitGroup 10 (withoutSign rest)

/-- The number after the mark of an exponent; zero without one. -/
def exponentOf : List Char → Int
  | [] => 0
  | _ :: rest =>
      let magnitude := groupNumber 10 (withoutSign rest)
      if rest.head? = some '-' then -magnitude else magnitude

/-- The least number that is too large for a binary number of sixty-four bits:
it lies half a step above the largest of them. -/
def overflow : Nat := (Nat.pow 2 54 - 1) * Nat.pow 2 970

/-- Whether the number with these digits and this exponent of ten stays below
`overflow`. Exponents beyond the bounds cannot change the answer: `overflow` has
309 digits, and `digits` are fewer than ten to the power of their number. -/
def isFinite (digits : List Char) (exponent : Int) : Bool :=
  groupNumber 10 digits * Nat.pow 10 (min exponent.toNat 309) <
    overflow * Nat.pow 10 (min (-exponent).toNat digits.length)

/-- A number with a fraction, an exponent or both, or a number that is none. -/
def isFloat (text : List Char) : Bool :=
  let unsigned := withoutSign text
  if unsigned == ['i', 'n', 'f'] || unsigned == ['n', 'a', 'n'] then true
  else
    let isPart := fun character => character == '_' || isDigitOf 10 character
    let whole := unsigned.takeWhile isPart
    match unsigned.dropWhile isPart with
    | [] => false
    | '.' :: rest =>
        let fraction := rest.takeWhile isPart
        let exponent := rest.dropWhile isPart
        isDecimal whole && isDigitGroup 10 fraction && isExponent exponent &&
          isFinite (whole ++ fraction)
            (exponentOf exponent - (fraction.filter (· != '_')).length)
    | exponent => isDecimal whole && isExponent exponent && isFinite whole (exponentOf exponent)

/-- A number of exactly `count` digits at the front, and the rest. -/
def readDigits? (count : Nat) (text : List Char) : Option (Nat × List Char) :=
  if text.length < count then none
  else (number? 10 (text.take count)).map fun number => (number, text.drop count)

/-- The rest after a certain character at the front. -/
def afterMark? (mark : Char) : List Char → Option (List Char)
  | [] => none
  | character :: rest => if character = mark then some rest else none

/-- How many days a month has. -/
def daysOf (year month : Nat) : Nat :=
  if month = 2 then
    if (year % 4 = 0 ∧ year % 100 ≠ 0) ∨ year % 400 = 0 then 29 else 28
  else if month = 4 ∨ month = 6 ∨ month = 9 ∨ month = 11 then 30
  else 31

/-- What follows a date of the calendar. -/
def afterDate? (text : List Char) : Option (List Char) := do
  let (year, rest) ← readDigits? 4 text
  let (month, rest) ← readDigits? 2 (← afterMark? '-' rest)
  let (day, rest) ← readDigits? 2 (← afterMark? '-' rest)
  if 1 ≤ month ∧ month ≤ 12 ∧ 1 ≤ day ∧ day ≤ daysOf year month then some rest else none

/-- What follows hours and minutes. -/
def afterHours? (text : List Char) : Option (List Char) := do
  let (hour, rest) ← readDigits? 2 text
  let (minute, rest) ← readDigits? 2 (← afterMark? ':' rest)
  if hour ≤ 23 ∧ minute ≤ 59 then some rest else none

/-- What follows seconds, which may have a fraction and may be a leap second. -/
def afterSeconds? (text : List Char) : Option (List Char) := do
  let (second, rest) ← readDigits? 2 text
  if 60 < second then none
  else
    match rest with
    | '.' :: fraction =>
        if fraction.head?.any (isDigitOf 10) then some (fraction.dropWhile (isDigitOf 10))
        else none
    | _ => some rest

/-- What follows a time of day, in which the seconds may be missing. -/
def afterTime? (text : List Char) : Option (List Char) :=
  match afterHours? text with
  | some (':' :: rest) => afterSeconds? rest
  | rest => rest

/-- Whether a text is an offset from universal time, or nothing. -/
def isOffset : List Char → Bool
  | [] => true
  | ['Z'] => true
  | ['z'] => true
  | '+' :: rest => afterHours? rest == some []
  | '-' :: rest => afterHours? rest == some []
  | _ => false

/-- Whether a text is a date, a time of day, or a date with a time. -/
def isDateOrTime (text : List Char) : Bool :=
  match afterDate? text with
  | some [] => true
  | some (mark :: rest) =>
      (mark == 'T' || mark == 't' || mark == ' ') && (afterTime? rest).any isOffset
  | none => afterTime? text == some []

/-- Whether a text is a value that is neither a text nor made of other values. -/
def isScalar (text : List Char) : Bool :=
  text == ['t', 'r', 'u', 'e'] || text == ['f', 'a', 'l', 's', 'e'] || isInteger text ||
    isFloat text || isDateOrTime text

/-- A character that such values are made of, apart from the space in a date with a time. -/
def isScalarCharacter (character : Char) : Bool :=
  character.isAlphanum || character == '+' || character == '-' || character == '_' ||
    character == '.' || character == ':'

/-- The unquoted value at the front and the rest. A date and a time may have a
space between them. -/
def readScalar? (text : List Char) : Option (List Char × List Char) :=
  let first := text.takeWhile isScalarCharacter
  let rest := text.dropWhile isScalarCharacter
  match rest with
  | ' ' :: digit :: more =>
      if afterDate? first == some [] && isDigitOf 10 digit then
        let time := (digit :: more).takeWhile isScalarCharacter
        let whole := first ++ ' ' :: time
        if isScalar whole then some (whole, (digit :: more).dropWhile isScalarCharacter) else none
      else if isScalar first then some (first, rest)
      else none
  | _ => if isScalar first then some (first, rest) else none

end IssueSync.Toml
