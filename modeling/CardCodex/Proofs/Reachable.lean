/-
Module: CardCodex.Proofs.Reachable
Purpose: Every card and every database that can come about, by setting tags, inserting cards
  and reading documents, is well typed: its accessors answer by the kinds of its tags, and
  its document is read back as the same database.
Main exports: Card.Reachable, Database.Reachable, Card.AnswersByKind,
  Card.Reachable.answers_by_kind, Database.Reachable.parse_written
-/
import CardCodex.Proofs.Writing

namespace CardCodex

/-- The cards that can come about: blank ones, those of documents, and what any
attempt to set a tag leaves of them. -/
inductive Card.Reachable : Card → Prop where
  | blank (id : String) : Reachable (.blank id)
  | attempt {card : Card} (reachable : Reachable card) (tag : GameTag) (offered : TagValue) :
      Reachable (card.attempt tag offered)
  | parsed {text : String} {database : Database} {card : Card}
      (accepted : Database.parse text = .ok database) (member : card ∈ database.cards.toList) :
      Reachable card

/-- The databases that can come about: the empty one, those of documents, and those
with one more such card. -/
inductive Database.Reachable : Database → Prop where
  | empty : Reachable .empty
  | insert {database : Database} {card : Card} (reachable : Reachable database)
      (reachableCard : card.Reachable) : Reachable (database.insert card)
  | parsed {text : String} {database : Database} (accepted : parse text = .ok database) :
      Reachable database

theorem Database.WellFormed.of_parse {text : String} {database : Database}
    (accepted : parse text = .ok database) : database.WellFormed := by
  have reads := reads_parse text
  rw [accepted] at reads
  exact of_reads reads

/-! ### Cards -/

namespace Card

theorem Reachable.wellTyped {card : Card} (reachable : card.Reachable) : card.WellTyped := by
  induction reachable with
  | blank id => exact .blank id
  | attempt _ tag offered inductionHypothesis => exact inductionHypothesis.attempt tag offered
  | parsed accepted member => exact (Database.WellFormed.of_parse accepted).typed _ member

/-- The accessors of a card answer by the kinds of the tags that are set, and every
value of the card can be named and written. -/
structure AnswersByKind (card : Card) : Prop where
  isSome_int?_iff : ∀ tag : GameTag,
    (card.int? tag).isSome ↔ tag ∈ card.tags.keys ∧ tag.isText = false
  isSome_text?_iff : ∀ tag : GameTag,
    (card.text? tag).isSome ↔ tag ∈ card.tags.keys ∧ tag.isText = true
  isSome_cardType?_iff : card.cardType?.isSome ↔ .cardType ∈ card.tags.keys
  /-- The integer of the card type is the stored one. -/
  value_cardType? : card.cardType?.map Enumeration.value = card.int? .cardType
  isSome_tribe?_iff : card.tribe?.isSome ↔ .tribe ∈ card.tags.keys
  /-- The integer of the tribe is the stored one. -/
  value_tribe? : card.tribe?.map Enumeration.value = card.int? .tribe
  itemName?_isOk_iff : ∀ entry ∈ card.tags.entries,
    (∃ name, entry.2.itemName? = some (.ok name)) ↔ ∃ id, entry.1.kind = .item id
  itemName?_ne_error : ∀ entry ∈ card.tags.entries, ∀ reason,
    entry.2.itemName? ≠ some (.error reason)
  toJson_isOk : ∃ json, card.toJson = .ok json

theorem WellTyped.answersByKind {card : Card} (typed : card.WellTyped) : card.AnswersByKind := by
  have cardTypeKind : GameTag.cardType.kind = .item .cardType := rfl
  have tribeKind : GameTag.tribe.kind = .item .tribe := rfl
  constructor
  · intro tag
    exact typed.isSome_int?_iff
  · intro tag
    exact typed.isSome_text?_iff
  · exact typed.isSome_item?_iff cardTypeKind
  · exact typed.map_value_item? cardTypeKind
  · exact typed.isSome_item?_iff tribeKind
  · exact typed.map_value_item? tribeKind
  · intro entry member
    exact (typed.fits entry member).itemName?_isOk_iff
  · intro entry member reason
    exact (typed.fits entry member).itemName?_ne_error reason
  · rcases typed.exists_toJson 0 with ⟨json, wrote, _, _⟩
    exact ⟨json, wrote⟩

/-- Whatever was offered to a card and whether it was taken or not, no tag of the card
occurs twice, each holds a value of its own kind, and the accessors answer by kind. -/
theorem Reachable.answers_by_kind {card : Card} (reachable : card.Reachable) :
    card.WellTyped ∧ card.AnswersByKind := by
  have typed := reachable.wellTyped
  exact ⟨typed, typed.answersByKind⟩

/-- A card on which an attempt fails: a power is no text. -/
def scout : Card :=
  (((blank "Scout").attempt .zone (.int 3)).attempt .power (.text "x")).attempt .name
    (.text "\"Scout\"\n")

theorem scout_reachable : scout.Reachable := by
  apply Reachable.attempt
  apply Reachable.attempt
  apply Reachable.attempt
  exact .blank "Scout"

theorem scout_answers_by_kind : scout.Reachable ∧ scout.WellTyped ∧ scout.AnswersByKind :=
  ⟨scout_reachable, Reachable.answers_by_kind scout_reachable⟩

end Card

/-! ### Databases -/

namespace Database

theorem Reachable.wellFormed {database : Database} (reachable : database.Reachable) :
    database.WellFormed := by
  induction reachable with
  | empty => exact .empty
  | insert _ reachableCard inductionHypothesis =>
      exact inductionHypothesis.insert reachableCard.wellTyped
  | parsed accepted => exact .of_parse accepted

/-- A database that can come about can be written, and reading its document gives the
same cards in the same order, with the same tags in the same order. -/
theorem Reachable.parse_written {database : Database} (reachable : database.Reachable) :
    ∃ text, database.written = .ok text ∧ parse text = .ok database := by
  rcases reachable.wellFormed.exists_text with ⟨text, wrote, reads⟩
  exact ⟨text, wrote, parse_eq_of_reads reads⟩

/-- Two cards, one of which is inserted a second time. -/
def scouts : Database :=
  ((empty.insert (.blank "Scout")).insert (.blank "\\😀")).insert .scout

theorem scouts_parse_written :
    scouts.Reachable ∧ ∃ text, scouts.written = .ok text ∧ parse text = .ok scouts := by
  have reachable : scouts.Reachable := by
    apply Reachable.insert
    · apply Reachable.insert
      · apply Reachable.insert
        · exact .empty
        · exact .blank "Scout"
      · exact .blank "\\😀"
    · exact Card.scout_reachable
  exact ⟨reachable, Reachable.parse_written reachable⟩

end Database

end CardCodex
