/-
Module: CardCodex.Card.Summary
Purpose: The line that sums up a card.
Main exports: Card.summary
-/
import CardCodex.Card.Basic
import CardCodex.Text.Column

namespace CardCodex

/-- What a column shows for an item, and for one that is missing. -/
def columnName {E : Type} [Enumeration E] : Option E → String
  | some item => Enumeration.itemName item
  | none => "-"

/-- A card in one line: columns for its id, its type and its tribe, then its
quoted name and the number of its tags. -/
def Card.summary (card : Card) : String :=
  padRight 24 card.id ++ " " ++ padRight 8 (columnName card.cardType?) ++ " "
    ++ padRight 10 (columnName card.tribe?) ++ " " ++ quoted (card.name?.getD "") ++ " ("
    ++ writtenInteger card.tags.size ++ " tags)"

end CardCodex
