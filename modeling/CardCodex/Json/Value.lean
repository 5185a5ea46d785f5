/-
Module: CardCodex.Json.Value
Purpose: JSON values as documents write them.
Main exports: Json, Json.shape
-/
import CardCodex.Tag.Value

namespace CardCodex

/-- A JSON value.  An object keeps all its members in the order in which they
are written, repeated keys included.  Whole numbers of 64 bits are integers;
every other number is a float and keeps the text it is written with. -/
inductive Json where
  | null
  | bool (truth : Bool)
  | integer (value : Int)
  | float (literal : String)
  | string (content : String)
  | array (elements : List Json)
  | object (members : List (String × Json))
deriving Repr

/-- The shape of a JSON value. -/
def Json.shape : Json → Shape
  | .null => .null
  | .bool _ => .boolean
  | .integer _ => .integer
  | .float _ => .float
  | .string _ => .string
  | .array _ => .array
  | .object _ => .object

end CardCodex
