/-
Module: CardCodex.Tag.Value
Purpose: The values a card holds for its tags, and which values fit which tag.
Main exports: TagValue, Shape, TagFault, TagValue.fit
-/
import CardCodex.Tag.Kind

namespace CardCodex

/-- The value of one tag of a card. -/
inductive TagValue where
  | int (value : Int32)
  | text (content : String)
  | item (id : EnumId) (value : Int32)
deriving DecidableEq, Repr

/-- The shape of something offered as the value of a tag, by a caller or by a
document. -/
inductive Shape where
  | null
  | boolean
  | integer
  | float
  | string
  | array
  | object
  | item (id : EnumId)
deriving DecidableEq, Repr

/-- The word for a shape.  An item goes by the name of its enumeration. -/
def Shape.label : Shape → String
  | .null => "null"
  | .boolean => "boolean"
  | .integer => "integer"
  | .float => "float"
  | .string => "string"
  | .array => "array"
  | .object => "object"
  | .item id => id.name

/-- Why a tag cannot hold what is offered. -/
inductive TagFault where
  | wrongShape (expected : Category) (found : Shape)
  | invalidItem (cause : LookupError)
  | outOfRange (value : Int)
deriving DecidableEq, Repr

namespace TagValue

/-- An item of an enumeration as a value. -/
def ofItem {E : Type} [Enumeration E] (item : E) : TagValue :=
  .item (Enumeration.id E) (Enumeration.value item)

/-- The integer of a number or of an item. -/
def asInt? : TagValue → Option Int32
  | .int value => some value
  | .text _ => none
  | .item _ value => some value

/-- The content of a text. -/
def asText? : TagValue → Option String
  | .int _ => none
  | .text content => some content
  | .item _ _ => none

/-- The name of an item, as far as its enumeration has one for its value. -/
def itemName? : TagValue → Option (Except LookupError String)
  | .int _ => none
  | .text _ => none
  | .item id value => some (id.directory.nameOf value)

/-- The shape of a value. -/
def shape : TagValue → Shape
  | .int _ => .integer
  | .text _ => .string
  | .item id _ => .item id

/-- The item of an enumeration with value `value`, which must be declared. -/
def declaredItem (id : EnumId) (value : Int32) : Except TagFault TagValue :=
  match id.directory.nameOf value with
  | .ok _ => .ok (.item id value)
  | .error cause => .error (.invalidItem cause)

/-- The value that `tag` holds when `offered` is given to it.  A tag of an
enumeration takes a declared item of that enumeration, given as an item or as
its integer, and holds an item; a text tag takes a text, and every other tag an
integer. -/
def fit (tag : GameTag) (offered : TagValue) : Except TagFault TagValue :=
  let misfit : Except TagFault TagValue := .error (.wrongShape tag.category offered.shape)
  match tag.kind, offered with
  | .item id, .int value => declaredItem id value
  | .item id, .item found value => if found = id then declaredItem id value else misfit
  | .item _, .text _ => misfit
  | .scalar category, .text content => if category = .string then .ok (.text content) else misfit
  | .scalar category, .int value => if category = .string then misfit else .ok (.int value)
  | .scalar _, .item _ _ => misfit

end TagValue

end CardCodex
