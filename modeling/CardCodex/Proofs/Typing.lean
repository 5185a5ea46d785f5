/-
Module: CardCodex.Proofs.Typing
Purpose: The type discipline of cards: which values a tag may hold, that setting and reading
  tags keep to it, and what the accessors of a card that keeps to it answer.
Main exports: TagValue.Fits, Card.WellTyped, Card.attempt, Card.WellTyped.attempt,
  Card.WellTyped.of_reads, Card.WellTyped.isSome_int?_iff, Card.WellTyped.map_value_item?,
  Database.WellFormed
-/
import CardCodex.Proofs.Reading

namespace CardCodex

/-- A tag of an enumeration holds a declared item of it, a text tag a text, and every
other tag an integer. -/
inductive TagValue.Fits (tag : GameTag) : TagValue → Prop where
  | item {id : EnumId} (item : id.Item) (isItem : tag.kind = .item id) :
      Fits tag (.item id (Enumeration.value item))
  | text {content : String} (isText : tag.kind = .scalar .string) : Fits tag (.text content)
  | int {category : Category} {value : Int32} (isNumber : tag.kind = .scalar category)
      (notText : category ≠ .string) : Fits tag (.int value)

theorem GameTag.isText_iff {tag : GameTag} : tag.isText = true ↔ tag.kind = .scalar .string := by
  rw [isText, category]
  cases tag.kind <;> simp [TagKind.category]

namespace TagValue

/-- A declared item has passed the check of its enumeration. -/
theorem eq_of_declaredItem_eq_ok {id : EnumId} {number : Int32} {value : TagValue}
    (accepted : declaredItem id number = .ok value) :
    ∃ item : id.Item, value = .item id (Enumeration.value item) := by
  unfold declaredItem at accepted
  cases named : id.directory.nameOf number with
  | error cause => simp [named] at accepted
  | ok name =>
      rcases EnumId.nameOf_eq_ok_iff.mp named with ⟨item, rfl, _⟩
      exact ⟨item, by simpa [named] using accepted.symm⟩

/-- What a tag holds fits it, whatever was offered. -/
theorem fits_of_fit {tag : GameTag} {offered value : TagValue}
    (accepted : fit tag offered = .ok value) : Fits tag value := by
  have ofDeclared : ∀ {id : EnumId} {number : Int32}, tag.kind = .item id →
      declaredItem id number = .ok value → Fits tag value := by
    intro id number isItem declared
    rcases eq_of_declaredItem_eq_ok declared with ⟨item, rfl⟩
    exact .item item isItem
  unfold fit at accepted
  split at accepted
  · next id number isItem => exact ofDeclared isItem accepted
  · next id found number isItem =>
      split at accepted
      · exact ofDeclared isItem accepted
      · cases accepted
  · cases accepted
  · next category content isScalar =>
      split at accepted
      · next isText =>
          subst isText
          cases accepted
          exact .text isScalar
      · cases accepted
  · next category number isScalar =>
      split at accepted
      · cases accepted
      · next notText =>
          cases accepted
          exact .int isScalar notText
  · cases accepted

theorem fits_of_reads {tag : GameTag} {json : Json} {value : TagValue}
    (reads : Reads tag json (.ok value)) : Fits tag value := by
  cases reads with
  | text isText => exact .text isText
  | itemOfName item isItem named => exact .item item isItem
  | itemOfValue item isItem denoted => exact .item item isItem
  | truth isNumber notText => exact .int isNumber notText
  | number isNumber notText denoted => exact .int isNumber notText

end TagValue

namespace Card

/-- No tag is held twice, and every tag holds a value that fits it. -/
structure WellTyped (card : Card) : Prop where
  tags_distinct : card.tags.DistinctKeys
  fits : ∀ entry ∈ card.tags.entries, TagValue.Fits entry.1 entry.2

/-- The card that a call to set a tag leaves, whether the call succeeds or fails. -/
def attempt (card : Card) (tag : GameTag) (offered : TagValue) : Card :=
  ((assign tag offered).run.run card).2

namespace WellTyped

variable {card : Card}

theorem blank (id : String) : (Card.blank id).WellTyped :=
  ⟨Assoc.DistinctKeys.empty, fun _ member => nomatch member⟩

/-- A value that fits its tag may be held. -/
theorem insert (typed : card.WellTyped) {tag : GameTag} {value : TagValue}
    (fitting : TagValue.Fits tag value) :
    ({ card with tags := card.tags.insert tag value } : Card).WellTyped := by
  refine ⟨typed.tags_distinct.insert tag value, ?_⟩
  rintro ⟨other, held⟩ member
  rcases Assoc.mem_entries_insert typed.tags_distinct member with ⟨rfl, rfl⟩ | old
  · exact fitting
  · exact typed.fits _ old

/-- A call that sets a tag keeps a card well typed, whether it succeeds or not. -/
theorem attempt (typed : card.WellTyped) (tag : GameTag) (offered : TagValue) :
    (card.attempt tag offered).WellTyped := by
  rw [Card.attempt, run_assign]
  split
  · next value fitted => exact typed.insert (TagValue.fits_of_fit fitted)
  · exact typed

/-- A card that a document describes is well typed. -/
theorem of_reads {id : String} {json : Json} (reads : Card.Reads id json (.ok card)) :
    card.WellTyped := by
  cases reads with
  | card merges read tagsMerge =>
      rename_i members merged entries tags
      have tagsEq : tags = (Assoc.ofList entries).entries := tagsMerge.entries_eq
      refine ⟨?_, ?_⟩
      · rw [tagsEq]
        exact Assoc.distinctKeys_ofList entries
      · rintro ⟨tag, value⟩ member
        rcases tagsMerge.last_value member with ⟨before, after, entriesEq, _⟩
        have entryMember : (tag, value) ∈ entries := by simp [entriesEq]
        rcases read.exists_of_mem entryMember with ⟨member, _, entryReads⟩
        cases entryReads with
        | entry named reads => exact TagValue.fits_of_reads reads

/-! ### What the accessors answer -/

/-- A tag that is set has a value that fits it. -/
theorem fits_of_get? (typed : card.WellTyped) {tag : GameTag} {value : TagValue}
    (held : card.get? tag = some value) : TagValue.Fits tag value :=
  typed.fits (tag, value) ((Assoc.find?_eq_some_iff typed.tags_distinct).mp held)

/-- A tag has an integer when it is set and is not a text. -/
theorem isSome_int?_iff (typed : card.WellTyped) {tag : GameTag} :
    (card.int? tag).isSome ↔ tag ∈ card.tags.keys ∧ tag.isText = false := by
  rw [← Assoc.isSome_find?_iff, ← Bool.not_eq_true, GameTag.isText_iff]
  change ((card.get? tag).bind TagValue.asInt?).isSome ↔ (card.get? tag).isSome ∧ _
  cases held : card.get? tag with
  | none => simp
  | some value =>
      cases typed.fits_of_get? held with
      | item item isItem => simp [TagValue.asInt?, isItem]
      | text isText => simp [TagValue.asInt?, isText]
      | int isNumber notText => simp [TagValue.asInt?, isNumber, notText]

/-- A tag has a content when it is set and is a text. -/
theorem isSome_text?_iff (typed : card.WellTyped) {tag : GameTag} :
    (card.text? tag).isSome ↔ tag ∈ card.tags.keys ∧ tag.isText = true := by
  rw [← Assoc.isSome_find?_iff, GameTag.isText_iff]
  change ((card.get? tag).bind TagValue.asText?).isSome ↔ (card.get? tag).isSome ∧ _
  cases held : card.get? tag with
  | none => simp
  | some value =>
      cases typed.fits_of_get? held with
      | item item isItem => simp [TagValue.asText?, isItem]
      | text isText => simp [TagValue.asText?, isText]
      | int isNumber notText => simp [TagValue.asText?, isNumber, notText]

/-- The item of a tag of an enumeration has the integer that the tag holds. -/
theorem map_value_item? (typed : card.WellTyped) {tag : GameTag} {id : EnumId}
    (isItem : tag.kind = .item id) :
    ((card.int? tag).bind (Enumeration.ofValue? id.Item)).map Enumeration.value =
      card.int? tag := by
  rw [int?]
  cases held : card.get? tag with
  | none => rfl
  | some value =>
      cases typed.fits_of_get? held with
      | item item sameKind =>
          rename_i other
          obtain rfl : id = other := TagKind.item.inj (isItem.symm.trans sameKind)
          have found := Enumeration.ofValue?_eq_some_iff.mpr (Eq.refl (Enumeration.value item))
          simp [TagValue.asInt?, found]
      | text isText => simp [isItem] at isText
      | int isNumber notText => simp [isItem] at isNumber

/-- The item of a tag of an enumeration is known when the tag is set. -/
theorem isSome_item?_iff (typed : card.WellTyped) {tag : GameTag} {id : EnumId}
    (isItem : tag.kind = .item id) :
    ((card.int? tag).bind (Enumeration.ofValue? id.Item)).isSome ↔ tag ∈ card.tags.keys := by
  have notText : tag.isText = false := by
    rw [← Bool.not_eq_true, GameTag.isText_iff, isItem]
    simp
  rw [← Option.isSome_map (f := Enumeration.value), typed.map_value_item? isItem,
    typed.isSome_int?_iff]
  simp [notText]

end WellTyped

end Card

namespace TagValue

/-- A value that fits a tag has an item name when the tag is one of an enumeration. -/
theorem Fits.itemName?_isOk_iff {tag : GameTag} {value : TagValue} (fitting : Fits tag value) :
    (∃ name, value.itemName? = some (.ok name)) ↔ ∃ id, tag.kind = .item id := by
  cases fitting with
  | item item isItem => simp [itemName?, isItem]
  | text isText => simp [itemName?, isText]
  | int isNumber notText => simp [itemName?, isNumber]

/-- A value that fits a tag is never an item without a name. -/
theorem Fits.itemName?_ne_error {tag : GameTag} {value : TagValue} (fitting : Fits tag value)
    (reason : LookupError) : value.itemName? ≠ some (.error reason) := by
  cases fitting with
  | item item isItem => simp [itemName?]
  | text isText => simp [itemName?]
  | int isNumber notText => simp [itemName?]

end TagValue

/-! ### Databases -/

namespace Database

/-- Slots and cards agree, and every card is well typed. -/
structure WellFormed (database : Database) : Prop where
  indexed : database.Indexed
  typed : ∀ card ∈ database.cards.toList, card.WellTyped

namespace WellFormed

theorem empty : Database.empty.WellFormed := by
  constructor
  · exact Indexed.empty
  · intro card impossible
    cases impossible

theorem insert {database : Database} (formed : database.WellFormed) {card : Card}
    (typed : card.WellTyped) : (database.insert card).WellFormed := by
  constructor
  · exact formed.indexed.insert card
  · intro other member
    rcases mem_cards_insert member with rfl | old
    · exact typed
    · exact formed.typed other old

/-- The database that a text describes is well formed. -/
theorem of_reads {text : String} {database : Database}
    (reads : Database.Reads text (.ok database)) : database.WellFormed := by
  cases reads with
  | database accepted merges read =>
      constructor
      · exact indexed_holding (Card.nodup_ids_of_reads merges read)
      · intro card member
        rcases read.exists_of_mem member with ⟨source, _, cardReads⟩
        exact .of_reads cardReads

end WellFormed

end Database

end CardCodex
