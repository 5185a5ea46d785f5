/-
Module: CardCodex.Card.Written
Purpose: Cards and databases as JSON, with tags and items in lower case.
Main exports: TagValue.toJson, Card.toJson, Database.toJson, Database.written
-/
import CardCodex.Card.Database
import CardCodex.Json.Writer

namespace CardCodex

/-- A tag value as JSON.  An item is written as its name, and must have one. -/
def TagValue.toJson : TagValue → Except LookupError Json
  | .int value => .ok (.integer value.toInt)
  | .text content => .ok (.string content)
  | .item id value => (id.directory.nameOf value).map fun name => .string (lowerCase name)

/-- A card as a JSON object keyed by tag name. -/
def Card.toJson (card : Card) : Except LookupError Json := do
  let members ← card.tags.entries.mapM fun entry => do
    let value ← entry.2.toJson
    pure (lowerCase (Enumeration.itemName entry.1), value)
  pure (.object members)

/-- A database as a JSON object keyed by card id. -/
def Database.toJson (database : Database) : Except LookupError Json := do
  let members ← database.cards.toList.mapM fun card => do
    let value ← card.toJson
    pure (card.id, value)
  pure (.object members)

/-- The document of a database. -/
def Database.written (database : Database) : Except LookupError String :=
  database.toJson.map (Json.written .indented)

end CardCodex
