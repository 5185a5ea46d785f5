/-
Module: CardCodex.Text.Casing
Purpose: The canonical form of a lookup key: its ASCII letters in upper case.
Main exports: isCanonical, canonical, lowerCase
-/

namespace CardCodex

/-- Whether a byte is the code of an ASCII lower case letter.  Every byte of a
multi-byte character is at least 128, so the test never fires inside one. -/
def isLowerByte (byte : UInt8) : Bool :=
  97 ≤ byte && byte ≤ 122

/-- Whether `name` is already a canonical lookup key, decided on its UTF-8
bytes: no byte is an ASCII lower case letter. -/
def isCanonical (name : String) : Bool :=
  !name.toUTF8.data.toList.any isLowerByte

/-- The canonical lookup key of `name`: each ASCII lower case letter becomes its
upper case form and every other character stays.  A name that is canonical
already is returned as it is. -/
def canonical (name : String) : String :=
  if isCanonical name then name else String.ofList (name.toList.map Char.toUpper)

/-- `name` with its ASCII upper case letters in lower case, the way documents
spell tags and items. -/
def lowerCase (name : String) : String :=
  String.ofList (name.toList.map Char.toLower)

end CardCodex
