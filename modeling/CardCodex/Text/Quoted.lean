/-
Module: CardCodex.Text.Quoted
Purpose: Quoted text for people to read: every character of the quotation is
  legible, and the quotation ends only at its closing quote.
Main exports: escapeChar, quoted
-/
import CardCodex.Text.Standalone

namespace CardCodex

/-- How a character is shown inside quotes: five characters and the two that
would be misread have a short escape, a character that is not legible on its
own is given by its code in lower case hexadecimal, and all others stand for
themselves. -/
def escapeChar (c : Char) : List Char :=
  if c = '\x00' then ['\\', '0']
  else if c = '\t' then ['\\', 't']
  else if c = '\n' then ['\\', 'n']
  else if c = '\r' then ['\\', 'r']
  else if c = '"' then ['\\', '"']
  else if c = '\\' then ['\\', '\\']
  else if isStandalone c then [c]
  else ['\\', 'u', '\x7b'] ++ Nat.toDigits 16 c.toNat ++ ['\x7d']

/-- `text` between double quotes, each character escaped as needed. -/
def quoted (text : String) : String :=
  String.ofList ('"' :: text.toList.flatMap escapeChar ++ ['"'])

end CardCodex
