/-
Module: CardCodex.Card.Basic
Purpose: A card: its id and the tags that are set on it.
Main exports: Card, Card.assign, Card.set, Card.get?, Card.run_assign, Card.set_eq
-/
import CardCodex.Assoc
import CardCodex.Card.Error

namespace CardCodex

/-- A card and its tags, in the order in which they were first set. -/
structure Card where
  id : String
  tags : Assoc GameTag TagValue
deriving DecidableEq, Repr

namespace Card

/-- The card `id` without any tag. -/
def blank (id : String) : Card :=
  ⟨id, .empty⟩

/-- The value that `tag` holds when `offered` is given to it, or what is wrong with
giving it to this card. -/
def checked (card : Card) (tag : GameTag) (offered : TagValue) : Except CardError TagValue :=
  (TagValue.fit tag offered).mapError (.unfit card.id tag)

/-- Sets a tag in place to the value that it holds when `offered` is given to it, where
the tag already stands or else last. -/
def assign (tag : GameTag) (offered : TagValue) : ExceptT CardError (StateM Card) Unit := do
  let value ← (← get).checked tag offered
  modify fun card => { card with tags := card.tags.insert tag value }

/-- The card on which a tag has been set. -/
def set (card : Card) (tag : GameTag) (offered : TagValue) : Except CardError Card :=
  let (answer, after) := (assign tag offered).run.run card
  answer.map fun _ => after

/-- A value that fits is held; a misfit is reported and changes nothing. -/
theorem run_assign (card : Card) (tag : GameTag) (offered : TagValue) :
    (assign tag offered).run.run card =
      match TagValue.fit tag offered with
      | .ok value => (.ok (), { card with tags := card.tags.insert tag value })
      | .error fault => (.error (.unfit card.id tag fault), card) := by
  unfold assign checked
  cases TagValue.fit tag offered <;> rfl

theorem set_eq (card : Card) (tag : GameTag) (offered : TagValue) :
    card.set tag offered =
      match TagValue.fit tag offered with
      | .ok value => .ok { card with tags := card.tags.insert tag value }
      | .error fault => .error (.unfit card.id tag fault) := by
  rw [set, run_assign]
  cases TagValue.fit tag offered <;> rfl

/-- The value of a tag. -/
def get? (card : Card) (tag : GameTag) : Option TagValue :=
  card.tags.find? tag

/-- The integer of a number or item tag. -/
def int? (card : Card) (tag : GameTag) : Option Int32 :=
  (card.get? tag).bind TagValue.asInt?

/-- The content of a text tag. -/
def text? (card : Card) (tag : GameTag) : Option String :=
  (card.get? tag).bind TagValue.asText?

/-- The name to display. -/
def name? (card : Card) : Option String :=
  card.text? .name

/-- The kind of card. -/
def cardType? (card : Card) : Option CardType :=
  (card.int? .cardType).bind (Enumeration.ofValue? CardType)

/-- The tribe of the card. -/
def tribe? (card : Card) : Option Tribe :=
  (card.int? .tribe).bind (Enumeration.ofValue? Tribe)

end Card

end CardCodex
