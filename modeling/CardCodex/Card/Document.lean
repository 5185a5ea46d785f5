/-
Module: CardCodex.Card.Document
Purpose: Reading card documents: JSON objects keyed by card id, whose values are
  objects keyed by tag name.
Main exports: TagValue.ofJson, Card.readTag, Card.ofMembers, Database.ofJson,
  Database.parse
-/
import CardCodex.Card.Database
import CardCodex.Enumeration.Codebook
import CardCodex.Json.Reader

namespace CardCodex

namespace TagValue

/-- A whole number of a document as a 32-bit word. -/
def readWord (value : Int) : Except TagFault Int32 :=
  match word? value with
  | some word => .ok word
  | none => .error (.outOfRange value)

/-- The value that a document offers for an item tag: the name of an item in any
ASCII casing, or an integer. -/
def readItem (id : EnumId) : Json → Except TagFault TagValue
  | .string name =>
      match id.directory.valueOf name with
      | .ok value => .ok (.item id value)
      | .error cause => .error (.invalidItem cause)
  | .integer value => (readWord value).map .int
  | .float _ => .error (.wrongShape .number .float)
  | other => .error (.wrongShape .enum other.shape)

/-- The value that a document offers for a text tag. -/
def readText : Json → Except TagFault TagValue
  | .string content => .ok (.text content)
  | other => .error (.wrongShape .string other.shape)

/-- The value that a document offers for any other tag: an integer, or a truth
value that stands for 0 or 1. -/
def readNumber (category : Category) : Json → Except TagFault TagValue
  | .bool truth => .ok (.int (if truth then 1 else 0))
  | .integer value => (readWord value).map .int
  | .float _ => .error (.wrongShape .number .float)
  | other => .error (.wrongShape category other.shape)

/-- The value that a document offers for `tag`. -/
def ofJson (tag : GameTag) (json : Json) : Except TagFault TagValue :=
  match tag.kind with
  | .item id => readItem id json
  | .scalar .string => readText json
  | .scalar category => readNumber category json

end TagValue

namespace Card

/-- Sets the tag called `key`, in any ASCII casing, to what a document offers. -/
def readTag (card : Card) (key : String) (json : Json) : Except CardError Card :=
  match Enumeration.parse GameTag key with
  | .error cause => .error (.unknownTag card.id key cause)
  | .ok tag =>
      match TagValue.ofJson tag json with
      | .error fault => .error (.unfit card.id tag fault)
      | .ok offered => card.set tag offered

/-- The card of a list of keys and values, or the first error among them. -/
def ofMembers (id : String) (members : List (String × Json)) : Except CardError Card :=
  members.foldlM (fun card member => card.readTag member.1 member.2) (blank id)

/-- The card `id` as a document gives it.  A repeated key counts once, in its
first place and with its last value. -/
def ofJson (id : String) : Json → Except CardError Card
  | .object members => ofMembers id (Assoc.ofList members).entries
  | _ => .error (.cardNotAnObject id)

end Card

namespace Database

/-- Adds the card `id` as a document gives it. -/
def readCard (database : Database) (id : String) (json : Json) : Except CardError Database :=
  (Card.ofJson id json).map database.insert

/-- The database of a list of ids and cards, or the first error among them. -/
def ofMembers (members : List (String × Json)) : Except CardError Database :=
  members.foldlM (fun database member => database.readCard member.1 member.2) empty

/-- The database of a document.  A repeated id counts once, in its first place
and with its last value. -/
def ofJson : Json → Except CardError Database
  | .object members => ofMembers (Assoc.ofList members).entries
  | _ => .error .notAnObject

/-- The database of the text of a document.  The whole text has to be JSON
before any card is looked at. -/
def parse (text : String) : Except CardError Database :=
  match Json.parse? text with
  | some json => ofJson json
  | none => .error .malformed

end Database

end CardCodex
