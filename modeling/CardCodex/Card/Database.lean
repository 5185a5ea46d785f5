/-
Module: CardCodex.Card.Database
Purpose: The loaded cards, in order and by id.
Main exports: Database, Database.insert, Database.find?
-/
import CardCodex.Card.Basic

namespace CardCodex

/-- Cards in the order in which their ids first came, and for each id the slot
of its card. -/
structure Database where
  cards : Array Card
  slots : Assoc String Nat
deriving Repr

namespace Database

/-- The database without cards. -/
def empty : Database :=
  ⟨#[], .empty⟩

/-- Adds a card.  It takes the place of an earlier card with the same id. -/
def insert (database : Database) (card : Card) : Database :=
  match database.slots.find? card.id with
  | some slot => { database with cards := database.cards.setIfInBounds slot card }
  | none =>
      { cards := database.cards.push card
        slots := database.slots.insert card.id database.cards.size }

/-- The card with id `id`. -/
def find? (database : Database) (id : String) : Option Card :=
  (database.slots.find? id).bind fun slot => database.cards[slot]?

/-- The number of cards. -/
def size (database : Database) : Nat :=
  database.cards.size

/-- Whether there are no cards. -/
def isEmpty (database : Database) : Bool :=
  database.cards.isEmpty

/-- Two databases are equal when they hold the same cards in the same order. -/
instance : BEq Database :=
  ⟨fun first second => first.cards == second.cards⟩

end Database

end CardCodex
