/-
Module: CardCodex.Json.Number
Purpose: JSON number literals: their grammar, and whether they are integers, floats
  or too large to be either.
Main exports: Numeral, Numeral.ofChars?, Numeral.value?
-/
import CardCodex.Json.Value

namespace CardCodex

/-- A number literal in its parts.  `fraction` holds the digits after the point
and `exponent` those after `mark`, which is the exponent letter with its sign.
A part that is not written is empty. -/
structure Numeral where
  negative : Bool
  whole : List Char
  fraction : List Char
  mark : List Char
  exponent : List Char
deriving DecidableEq, Repr

namespace Numeral

/-- The literal as it is written. -/
def chars (numeral : Numeral) : List Char :=
  (if numeral.negative then ['-'] else []) ++ numeral.whole
    ++ (if numeral.fraction.isEmpty then [] else '.' :: numeral.fraction)
    ++ numeral.mark ++ numeral.exponent

/-- Whether the digits before the point are well formed: at least one, and no
leading zero. -/
def isWhole : List Char → Bool
  | [] => false
  | '0' :: rest => rest.isEmpty
  | _ :: _ => true

/-- Splits off the point and the digits after it, of which there is at least
one. -/
def splitFraction? : List Char → Option (List Char × List Char)
  | '.' :: rest =>
      let digits := rest.takeWhile Char.isDigit
      if digits.isEmpty then none else some (digits, rest.dropWhile Char.isDigit)
  | rest => some ([], rest)

/-- Splits off the exponent letter and the sign that may follow it. -/
def splitMark : List Char → List Char × List Char
  | 'e' :: rest => splitSign 'e' rest
  | 'E' :: rest => splitSign 'E' rest
  | rest => ([], rest)
where
  splitSign (letter : Char) : List Char → List Char × List Char
    | '+' :: rest => ([letter, '+'], rest)
    | '-' :: rest => ([letter, '-'], rest)
    | rest => ([letter], rest)

/-- The literal without its sign. -/
def ofUnsigned? (negative : Bool) (text : List Char) : Option Numeral := do
  let whole := text.takeWhile Char.isDigit
  let (fraction, afterFraction) ← splitFraction? (text.dropWhile Char.isDigit)
  let (mark, exponent) := splitMark afterFraction
  if isWhole whole && exponent.all Char.isDigit && mark.isEmpty == exponent.isEmpty then
    some
      { negative := negative
        whole := whole
        fraction := fraction
        mark := mark
        exponent := exponent }
  else
    none

/-- Reads a whole text as a number literal. -/
def ofChars? : List Char → Option Numeral
  | '-' :: rest => ofUnsigned? true rest
  | text => ofUnsigned? false text

/-- The number that digits denote. -/
def digitsValue (digits : List Char) : Nat :=
  Nat.ofDigitChars 10 digits 0

/-- One more than the largest unsigned word of 64 bits. -/
def wordLimit : Nat :=
  Nat.pow 2 64

/-- Appends digits to a significand for as long as it stays a word of 64 bits;
the digits that are left over come second. -/
def accumulate : Nat → List Char → Nat × List Char
  | significand, [] => (significand, [])
  | significand, digit :: rest =>
      let next := 10 * significand + (digit.toNat - 48)
      if next < wordLimit then accumulate next rest else (significand, digit :: rest)

/-- The significand of at most 64 bits that a literal is measured by, and the
power of ten it is scaled by.  Digits that do not fit before the point count as
zeros, and after the point they are dropped. -/
def scaled (numeral : Numeral) : Nat × Int :=
  let (wholeValue, surplus) := accumulate 0 numeral.whole
  let (significand, dropped) := accumulate wholeValue numeral.fraction
  let kept := numeral.fraction.length - dropped.length
  let written : Int := digitsValue numeral.exponent
  let exponent := if '-' ∈ numeral.mark then -written else written
  (significand, surplus.length - kept + exponent)

/-- `n` rounded to 53 significant bits, a tie going to the even neighbour. -/
def roundTo53Bits (n : Nat) : Nat :=
  let excess := n.log2 + 1 - 53
  let unit := Nat.pow 2 excess
  let quotient := n / unit
  let remainder := n % unit
  if 2 * remainder > unit ∨ (2 * remainder = unit ∧ quotient % 2 = 1) then (quotient + 1) * unit
  else quotient * unit

/-- The least number that rounds past the largest finite double. -/
def doubleLimit : Nat :=
  Nat.pow 2 1024 - Nat.pow 2 970

/-- Whether a literal denotes no finite double: the product of its rounded
significand and its rounded power of ten rounds past the largest one. -/
def isHuge (numeral : Numeral) : Bool :=
  let (significand, exponent) := numeral.scaled
  significand != 0 && 0 ≤ exponent
    && (308 < exponent
      || doubleLimit ≤ roundTo53Bits significand * roundTo53Bits (Nat.pow 10 exponent.toNat))

/-- A literal as a float that keeps its text; none when it is huge. -/
def float? (numeral : Numeral) : Option Json :=
  if numeral.isHuge then none else some (.float (String.ofList numeral.chars))

/-- The value of a literal; none when it is huge.  A literal without point and
exponent is an integer when an unsigned word of 64 bits holds it or, after a
minus sign, a signed one; minus zero is a float. -/
def value? (numeral : Numeral) : Option Json :=
  let magnitude := digitsValue numeral.whole
  if numeral.fraction.isEmpty && numeral.mark.isEmpty then
    if numeral.negative then
      if magnitude != 0 && magnitude ≤ wordLimit / 2 then some (.integer (-(magnitude : Int)))
      else numeral.float?
    else if magnitude < wordLimit then some (.integer magnitude)
    else numeral.float?
  else
    numeral.float?

end Numeral

end CardCodex
