/-
Module: CardCodex.Enumeration.LookupError
Purpose: Why a name or a value is no item of an enumeration.
Main exports: LookupError, LookupError.respelled, LookupError.message
-/
import CardCodex.Text.Integer

namespace CardCodex

/-- A lookup that found no item.  The error names the enumeration that was
searched and what was looked for, a name just as the caller spelled it. -/
inductive LookupError where
  | unknownName (enumName name : String)
  | unknownValue (enumName : String) (value : Int32)
deriving DecidableEq, Repr

namespace LookupError

/-- The enumeration that was searched. -/
def enumName : LookupError → String
  | .unknownName enumName _ => enumName
  | .unknownValue enumName _ => enumName

/-- Whether the error says that something was not found.  Every one does. -/
def isNotFound : LookupError → Bool
  | .unknownName _ _ => true
  | .unknownValue _ _ => true

/-- The error with the name that was looked for spelled as `name`. -/
def respelled (name : String) : LookupError → LookupError
  | .unknownName enumName _ => .unknownName enumName name
  | .unknownValue enumName value => .unknownValue enumName value

/-- The error in words. -/
def message : LookupError → String
  | .unknownName enumName name => "`" ++ name ++ "` is not an item of enum " ++ enumName
  | .unknownValue enumName value =>
      writtenInteger value.toInt ++ " is not a value of enum " ++ enumName

end LookupError

end CardCodex
