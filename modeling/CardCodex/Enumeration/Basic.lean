/-
Module: CardCodex.Enumeration.Basic
Purpose: What an enumeration of the rules is: a closed list of items, each with an
  upper case name and a 32-bit value of its own.
Main exports: EnumId, Enumeration, Enumeration.ofValue?, Enumeration.declared
-/
import CardCodex.Text.Casing
import CardCodex.Enumeration.LookupError

namespace CardCodex

/-- The enumerations of the rules. -/
inductive EnumId where
  | gameTag
  | blockType
  | cardType
  | resourceType
  | requirement
  | tribe
  | zone
  | step
  | optionType
  | category
deriving DecidableEq, Repr

namespace EnumId

/-- The declared name of an enumeration. -/
def name : EnumId → String
  | .gameTag => "GameTag"
  | .blockType => "BlockType"
  | .cardType => "CardType"
  | .resourceType => "ResourceType"
  | .requirement => "Requirement"
  | .tribe => "Tribe"
  | .zone => "Zone"
  | .step => "Step"
  | .optionType => "OptionType"
  | .category => "Category"

/-- Every enumeration, in declaration order. -/
def all : List EnumId :=
  [.gameTag, .blockType, .cardType, .resourceType, .requirement, .tribe, .zone, .step,
    .optionType, .category]

theorem mem_all (id : EnumId) : id ∈ all := by
  cases id <;> decide

/-- The enumeration declared under `name`.  Casing counts: this is the name of
an enumeration, not of an item. -/
def ofName? (name : String) : Option EnumId :=
  all.find? fun id => id.name == name

end EnumId

/-- A closed enumeration.  `items` lists its items once each in declaration
order; no two share a name or a value, and names are canonical lookup keys. -/
class Enumeration (E : Type) where
  id : EnumId
  items : List E
  itemName : E → String
  value : E → Int32
  mem_items : ∀ item, item ∈ items
  names_nodup : (items.map itemName).Nodup
  values_nodup : (items.map value).Nodup
  names_canonical : ∀ item ∈ items, isCanonical (itemName item) = true

namespace Enumeration

/-- The declared name of `E`. -/
def name (E : Type) [Enumeration E] : String :=
  (id E).name

/-- The item of `E` with value `wanted`. -/
def ofValue? (E : Type) [Enumeration E] (wanted : Int32) : Option E :=
  (items (E := E)).find? fun item => value item == wanted

/-- The item of `E` with value `wanted`, or the reason why there is none. -/
def ofValue (E : Type) [Enumeration E] (wanted : Int32) : Except LookupError E :=
  match ofValue? E wanted with
  | some item => .ok item
  | none => .error (.unknownValue (name E) wanted)

/-- The items of `E` with their names, in declaration order. -/
def declared (E : Type) [Enumeration E] : List (String × E) :=
  (items (E := E)).map fun item => (itemName item, item)

/-- Items are ordered by value. -/
def compareItems {E : Type} [Enumeration E] (first second : E) : Ordering :=
  compare (value first) (value second)

/-- The items of `E` in ascending order. -/
def sortedItems (E : Type) [Enumeration E] : List E :=
  (items (E := E)).mergeSort fun first second => (compareItems first second).isLE

end Enumeration

end CardCodex
