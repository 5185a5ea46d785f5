/-
Module: CardCodex.Card.Error
Purpose: What can be wrong with card data.
Main exports: CardError, CardError.message
-/
import CardCodex.Tag.Value

namespace CardCodex

/-- What is wrong with a document of cards or with a value for a card.  All
errors but the first two name the card. -/
inductive CardError where
  | malformed
  | notAnObject
  | cardNotAnObject (card : String)
  | unknownTag (card key : String) (cause : LookupError)
  | unfit (card : String) (tag : GameTag) (fault : TagFault)
deriving DecidableEq, Repr

namespace CardError

/-- The card that the error is about. -/
def card? : CardError → Option String
  | .malformed => none
  | .notAnObject => none
  | .cardNotAnObject card => some card
  | .unknownTag card _ _ => some card
  | .unfit card _ _ => some card

/-- The failed lookup behind the error. -/
def cause? : CardError → Option LookupError
  | .malformed => none
  | .notAnObject => none
  | .cardNotAnObject _ => none
  | .unknownTag _ _ cause => some cause
  | .unfit _ _ (.wrongShape _ _) => none
  | .unfit _ _ (.invalidItem cause) => some cause
  | .unfit _ _ (.outOfRange _) => none

/-- The error in words. -/
def message : CardError → String
  | .malformed => "malformed card data"
  | .notAnObject => "card data must be a JSON object keyed by card id"
  | .cardNotAnObject card => "card `" ++ card ++ "` must be a JSON object keyed by tag name"
  | .unknownTag card key _ => "card `" ++ card ++ "`: unknown tag `" ++ key ++ "`"
  | .unfit card tag (.wrongShape expected found) =>
      "card `" ++ card ++ "`: tag " ++ Enumeration.itemName tag ++ " expects "
        ++ Enumeration.itemName expected ++ ", found " ++ found.label
  | .unfit card tag (.invalidItem _) =>
      "card `" ++ card ++ "`: invalid value for tag " ++ Enumeration.itemName tag
  | .unfit card tag (.outOfRange value) =>
      "card `" ++ card ++ "`: value " ++ writtenInteger value ++ " of tag "
        ++ Enumeration.itemName tag ++ " is out of range"

end CardError

end CardCodex
