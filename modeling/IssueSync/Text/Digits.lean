/-! # Numerals

Numerals in a base up to sixteen, written with lower case letters and read
with letters of either case.
-/

namespace IssueSync.Text

/-- The value of a digit of base sixteen. -/
def digitValue? (digit : Char) : Option Nat :=
  if '0' ≤ digit ∧ digit ≤ '9' then some (digit.toNat - '0'.toNat)
  else if 'a' ≤ digit ∧ digit ≤ 'f' then some (digit.toNat - 'a'.toNat + 10)
  else if 'A' ≤ digit ∧ digit ≤ 'F' then some (digit.toNat - 'A'.toNat + 10)
  else none

/-- Whether a character is a digit in a number system. -/
def isDigitOf (base : Nat) (digit : Char) : Bool :=
  match digitValue? digit with
  | some value => value < base
  | none => false

/-- The number that comes from appending a digit to a numeral. -/
def appendDigit (base total : Nat) (digit : Char) : Nat :=
  total * base + (digitValue? digit).getD 0

/-- The number a numeral stands for: at least one digit, and nothing else. -/
def number? (base : Nat) (numeral : List Char) : Option Nat :=
  if numeral.isEmpty || !numeral.all (isDigitOf base) then none
  else some (numeral.foldl (appendDigit base) 0)

/-- The character with this code point, where there is one. -/
def charOfCode? (code : Nat) : Option Char :=
  if valid : code.isValidChar then some (Char.ofNatAux code valid) else none

/-- The code of a character leads back to it. -/
theorem charOfCode?_toNat (character : Char) : charOfCode? character.toNat = some character := by
  have valid : character.toNat.isValidChar := character.valid
  have same := Char.ofNat_toNat character
  rw [Char.ofNat, dif_pos valid] at same
  rw [charOfCode?, dif_pos valid, same]

/-- The shortest numeral of base sixteen. -/
def hexadecimal (number : Nat) : List Char :=
  Nat.toDigits 16 number

/-- The digit for a number below sixteen has that number as its value. -/
theorem digitValue?_digitChar :
    ∀ value < 16, digitValue? (Nat.digitChar value) = some value := by
  decide

/-- The digits of a number, from the last one on. -/
theorem hexadecimal_eq (number : Nat) :
    hexadecimal number =
      if number < 16 then [Nat.digitChar number]
      else hexadecimal (number / 16) ++ [Nat.digitChar (number % 16)] :=
  Nat.toDigits_eq_if (by omega)

/-- Only hexadecimal digits are used, and these in lower case. -/
theorem exists_of_mem_hexadecimal {number : Nat} {digit : Char}
    (member : digit ∈ hexadecimal number) : ∃ value < 16, digit = Nat.digitChar value := by
  induction number using Nat.strongRecOn with
  | ind number ih =>
      rw [hexadecimal_eq] at member
      split at member
      · next small => exact ⟨number, small, List.mem_singleton.mp member⟩
      · next large =>
          rcases List.mem_append.mp member with earlier | last
          · exact ih (number / 16) (by omega) earlier
          · exact ⟨number % 16, by omega, List.mem_singleton.mp last⟩

theorem isDigitOf_of_mem_hexadecimal {number : Nat} {digit : Char}
    (member : digit ∈ hexadecimal number) : isDigitOf 16 digit = true := by
  obtain ⟨value, small, rfl⟩ := exists_of_mem_hexadecimal member
  rw [isDigitOf, digitValue?_digitChar value small]
  exact decide_eq_true small

/-- The digits of a number give it back when read from left to right. -/
theorem foldl_hexadecimal (number : Nat) :
    (hexadecimal number).foldl (appendDigit 16) 0 = number := by
  induction number using Nat.strongRecOn with
  | ind number ih =>
      rw [hexadecimal_eq]
      split
      · next small => simp [appendDigit, digitValue?_digitChar number small]
      · next large =>
          have last : number % 16 < 16 := by omega
          rw [List.foldl_append, ih (number / 16) (by omega), List.foldl_cons, List.foldl_nil,
            appendDigit, digitValue?_digitChar _ last, Option.getD_some]
          omega

/-- A numeral is read as the number it was written for. -/
theorem number?_hexadecimal (number : Nat) : number? 16 (hexadecimal number) = some number := by
  have filled : (hexadecimal number).isEmpty = false :=
    List.isEmpty_eq_false_iff.mpr Nat.toDigits_ne_nil
  have digits : (hexadecimal number).all (isDigitOf 16) = true :=
    List.all_eq_true.mpr fun _ => isDigitOf_of_mem_hexadecimal
  rw [number?, filled, digits, foldl_hexadecimal]
  rfl

end IssueSync.Text
