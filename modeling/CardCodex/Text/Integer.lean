/-
Module: CardCodex.Text.Integer
Purpose: Signed decimal integers as text, and the 32-bit words among them.
Main exports: word?, writtenInteger, readInteger?, readWord?
-/
import CardCodex.Text.Blank

namespace CardCodex

/-- The 32-bit word that denotes `n`; none when `n` is out of range.  Nothing
wraps around. -/
def word? (n : Int) : Option Int32 :=
  if -2147483648 ≤ n ∧ n ≤ 2147483647 then some (Int32.ofInt n) else none

/-- The decimal digits of `n`, after a minus sign when it is negative. -/
def integerChars (n : Int) : List Char :=
  (if n < 0 then ['-'] else []) ++ Nat.toDigits 10 n.natAbs

/-- `n` in decimal. -/
def writtenInteger (n : Int) : String :=
  String.ofList (integerChars n)

/-- The number that one or more ASCII digits denote.  Leading zeros are allowed. -/
def readDigits? (digits : List Char) : Option Nat :=
  if !digits.isEmpty && digits.all Char.isDigit then
    some (Nat.ofDigitChars 10 digits 0)
  else
    none

/-- The integer that an optional sign and one or more ASCII digits denote. -/
def readInteger? : List Char → Option Int
  | '-' :: digits => (readDigits? digits).map fun n => -(n : Int)
  | '+' :: digits => (readDigits? digits).map fun n => (n : Int)
  | digits => (readDigits? digits).map fun n => (n : Int)

/-- The 32-bit word that `text` denotes once the blanks around it are trimmed. -/
def readWord? (text : String) : Option Int32 :=
  (readInteger? (trimBlanks text.toList)).bind word?

end CardCodex
