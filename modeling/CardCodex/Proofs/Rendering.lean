/-
Module: CardCodex.Proofs.Rendering
Purpose: The value of a tag goes by one name wherever it is told: in what is shown for its
  integer, in the directory of the tag, and, for a card that can come about, as the item that
  the card holds, in the document of the card and in any casing that is read back from there.
Main exports: GameTag.ShownByDirectory, Card.ToldAs, Card.WellTyped.exists_toldAs,
  GameTag.renderings_agree
-/
import CardCodex.Proofs.Describing
import CardCodex.Proofs.IntegerOffers
import CardCodex.Proofs.Reachable
import CardCodex.Proofs.Spellings

namespace CardCodex

/-! ### What is shown for an integer -/

namespace GameTag

/-- The tags that are listed to be shown by name are the tags of an enumeration. -/
theorem mem_rendered_iff {tag : GameTag} : tag ∈ rendered ↔ ∃ id, tag.kind = .item id := by
  cases tag <;> simp [rendered, kind]

theorem renderValue_of_scalar {tag : GameTag} {category : Category}
    (isScalar : tag.kind = .scalar category) (value : Int32) :
    tag.renderValue value = unknownName := by
  rw [renderValue, renderedDirectory?_eq, directory?_of_scalar isScalar]

theorem renderValue_value {tag : GameTag} {id : EnumId} (isItem : tag.kind = .item id)
    (item : id.Item) : tag.renderValue (Enumeration.value item) = Enumeration.itemName item :=
  (shownAs_renderValue isItem _).functional (.item item rfl)

/-- What is shown for the integers of a tag is what the directory of the tag has for them. -/
structure ShownByDirectory (tag : GameTag) : Prop where
  mem_rendered_iff : tag ∈ rendered ↔ ∃ id, tag.kind = .item id
  /-- The names of the directory are shown, and no other names. -/
  named_iff : ∀ value name,
    (∃ directory, tag.directory? = some directory ∧ directory.nameOf value = .ok name) ↔
      tag.renderValue value = name ∧ name ≠ unknownName
  nameless_iff : ∀ value, tag.renderValue value = unknownName ↔
    (∀ id, tag.kind ≠ .item id) ∨
      ∃ id, tag.kind = .item id ∧ ∀ item : id.Item, Enumeration.value item ≠ value
  /-- No item goes by the name for what has none. -/
  itemName_ne_unknownName : ∀ id, tag.kind = .item id → ∀ item : id.Item,
    Enumeration.itemName item ≠ unknownName

theorem nameOf_eq_ok_iff_renderValue {tag : GameTag} {id : EnumId} (isItem : tag.kind = .item id)
    {value : Int32} {name : String} :
    id.directory.nameOf value = .ok name ↔ tag.renderValue value = name ∧ name ≠ unknownName := by
  constructor
  · intro named
    obtain ⟨item, rfl, rfl⟩ := EnumId.nameOf_eq_ok_iff.mp named
    exact ⟨renderValue_value isItem item, itemName_ne_unknownName isItem item⟩
  · rintro ⟨rfl, hasName⟩
    have shown := shownAs_renderValue isItem value
    generalize tag.renderValue value = name at shown hasName
    cases shown with
    | item item valued => exact EnumId.nameOf_eq_ok_iff.mpr ⟨item, valued, rfl⟩
    | unknown undeclared => exact absurd rfl hasName

theorem renderValue_eq_unknownName_iff {tag : GameTag} {id : EnumId}
    (isItem : tag.kind = .item id) {value : Int32} :
    tag.renderValue value = unknownName ↔ ∀ item : id.Item, Enumeration.value item ≠ value := by
  have shown := shownAs_renderValue isItem value
  rw [← ShownAs.eq_unknownName_iff isItem]
  constructor
  · intro nameless
    rwa [nameless] at shown
  · exact shown.functional

/-- The list of tags to show by name and the kinds of tags never part. -/
theorem shownByDirectory (tag : GameTag) : tag.ShownByDirectory := by
  cases kind : tag.kind with
  | scalar category =>
      have noItem : ∀ id, tag.kind ≠ .item id := by simp [kind]
      have nameless := renderValue_of_scalar kind
      constructor
      · exact mem_rendered_iff
      · intro value name
        simp [directory?_of_scalar kind, nameless value, eq_comm]
      · intro value
        simp [nameless value, kind]
      · intro id isItem
        exact absurd isItem (noItem id)
  | item id =>
      constructor
      · exact mem_rendered_iff
      · intro value name
        simp [directory?_of_item kind, nameOf_eq_ok_iff_renderValue kind]
      · intro value
        rw [renderValue_eq_unknownName_iff kind]
        simp [kind]
      · intro other isItem
        exact itemName_ne_unknownName isItem

end GameTag

/-! ### The item that a card holds -/

/-- The name of an item is read as the item in any casing. -/
theorem TagValue.Reads.of_eqUpToCase {tag : GameTag} {id : EnumId} (item : id.Item)
    (isItem : tag.kind = .item id) {text : String}
    (same : EqUpToCase text (lowerCase (Enumeration.itemName item))) :
    Reads tag (.string text) (.ok (.item id (Enumeration.value item))) := by
  apply Reads.itemOfName item isItem
  rw [upperCase_eq_upperCase_iff.mpr same, Enumeration.upperCase_lowerCase_itemName]

theorem GameTag.spelledBy_lowerCase (tag : GameTag) :
    tag.SpelledBy (lowerCase (Enumeration.itemName tag)) :=
  spelledBy_iff.mpr (Enumeration.upperCase_lowerCase_itemName tag).symm

namespace Card

/-- What a member says for a tag is held, whatever the card held before. -/
theorem readTag_of_reads (card : Card) {tag : GameTag} {key : String} {json : Json}
    {value : TagValue} (spelled : tag.SpelledBy key)
    (reads : TagValue.Reads tag json (.ok value)) :
    card.readTag key json = .ok (card.withEntry (tag, value)) := by
  have entryReads : EntryReads card.id (key, json) (.ok (tag, value)) :=
    entryReads_ok_iff.mpr ⟨spelled, reads⟩
  rw [readTag_eq, entryReads_iff.mp entryReads]
  rfl

theorem writeEntry_eq_ok_iff {entry : GameTag × TagValue} {key : String} {json : Json} :
    writeEntry entry = .ok (key, json) ↔ key = entryKey entry ∧ entry.2.toJson = .ok json := by
  rw [writeEntry]
  cases entry.2.toJson with
  | error reason => simp [bind, Except.bind]
  | ok written => simp [bind, Except.bind, pure, Except.pure, eq_comm]

/-- Of the members of a card's object, one spells a tag that the card holds: it has the name of
the tag in lower case as its key, and the value as it is written. -/
theorem WellTyped.mem_members_iff {card : Card} (typed : card.WellTyped)
    {members : List (String × Json)} (wrote : card.tags.entries.mapM writeEntry = .ok members)
    {tag : GameTag} {held : TagValue} (holds : card.get? tag = some held) {key : String}
    (spelled : tag.SpelledBy key) {json : Json} :
    (key, json) ∈ members ↔
      key = lowerCase (Enumeration.itemName tag) ∧ held.toJson = .ok json := by
  have present := (Assoc.find?_eq_some_iff typed.tags_distinct).mp holds
  rw [mem_iff_of_mapM_eq_ok wrote]
  constructor
  · rintro ⟨⟨other, value⟩, otherPresent, wroteEntry⟩
    obtain ⟨rfl, wroteValue⟩ := writeEntry_eq_ok_iff.mp wroteEntry
    -- A key spells one tag, and the card holds one value for it.
    obtain rfl : tag = other := spelled.eq other.spelledBy_lowerCase
    have found := (Assoc.find?_eq_some_iff typed.tags_distinct).mpr otherPresent
    obtain rfl : held = value := Option.some.inj (holds.symm.trans found)
    exact ⟨rfl, wroteValue⟩
  · rintro ⟨rfl, wroteValue⟩
    exact ⟨(tag, held), present, writeEntry_eq_ok_iff.mpr ⟨rfl, wroteValue⟩⟩

/-- Every way to tell the value `held` that a card has for a tag tells `shown`. -/
structure ToldAs (card : Card) (tag : GameTag) (held : TagValue) (shown : String) : Prop where
  renderValue_int? : (card.int? tag).map tag.renderValue = some shown
  ne_unknownName : shown ≠ unknownName
  itemName?_eq : held.itemName? = some (.ok shown)
  /-- The JSON of the card, whose text gives the same members in any layout, has one of them for
  the tag, and this one has the name in lower case. -/
  exists_members : ∃ members, card.toJson = .ok (.object members) ∧
    (∀ layout, Json.parse? (Json.written layout (.object members)) = some (.object members)) ∧
    ∀ key json, tag.SpelledBy key → ((key, json) ∈ members ↔
      key = lowerCase (Enumeration.itemName tag) ∧ json = .string (lowerCase shown))
  /-- In any casing that text is read as the value, whatever a card held for the tag before. -/
  readTag_eq : ∀ (other : Card) key text, tag.SpelledBy key → EqUpToCase text (lowerCase shown) →
    other.readTag key (.string text) = .ok { other with tags := other.tags.insert tag held }
  /-- A document that has the text for the tag of its one card gives the value. -/
  parse_eq : ∀ document id key text,
    Json.parse? document = some (.object [(id, .object [(key, .string text)])]) →
    tag.SpelledBy key → EqUpToCase text (lowerCase shown) →
    Database.parse document = .ok (.holding [⟨id, ⟨[(tag, held)]⟩⟩])

/-- An item that a well typed card holds is told by its name. -/
theorem WellTyped.exists_toldAs {card : Card} (typed : card.WellTyped) {tag : GameTag}
    {id : EnumId} (isItem : tag.kind = .item id) {held : TagValue}
    (holds : card.get? tag = some held) : ∃ shown, card.ToldAs tag held shown := by
  cases typed.fits_of_get? holds with
  | text isText => simp [isItem] at isText
  | int isNumber notText => simp [isItem] at isNumber
  | @item id item isItem =>
      obtain ⟨members, wrote, written⟩ := typed.exists_members (maxDepth - 1)
      refine ⟨Enumeration.itemName item, ?_⟩
      constructor
      · simp [int?, holds, TagValue.asInt?, GameTag.renderValue_value isItem]
      · exact GameTag.itemName_ne_unknownName isItem item
      · rw [TagValue.itemName?, EnumId.nameOf_value]
      · refine ⟨members, toJson_eq_ok wrote, Json.parse?_written written.writable, ?_⟩
        intro key json spelled
        rw [typed.mem_members_iff wrote holds spelled, TagValue.toJson, EnumId.nameOf_value]
        simp [Except.map, eq_comm]
      · intro other key text spelled same
        exact other.readTag_of_reads spelled (.of_eqUpToCase item isItem same)
      · intro document id key text accepted spelled same
        exact Database.parse_of_oneTag accepted (GameTag.spelledBy_iff.mp spelled)
          (.of_eqUpToCase item isItem same)

end Card

/-- What is shown for an integer of a tag is the name that the directory of the tag has for it,
and stands for no name exactly where there is none.  A card that can come about has such a name
for every item that it holds, which is written in lower case and read back in any casing. -/
theorem GameTag.renderings_agree (tag : GameTag) :
    tag.ShownByDirectory ∧
      ∀ (card : Card) (id : EnumId) (held : TagValue), card.Reachable → tag.kind = .item id →
        card.get? tag = some held → ∃ shown, card.ToldAs tag held shown := by
  refine ⟨tag.shownByDirectory, ?_⟩
  intro card id held reachable isItem holds
  exact reachable.wellTyped.exists_toldAs isItem holds

/-- The zone of the scout was set by its integer. -/
theorem Card.scout_renderings_agree :
    Card.scout.Reachable ∧ GameTag.kind .zone = .item .zone ∧
      Card.scout.get? .zone = some (.item .zone 3) ∧
      ∃ shown, Card.scout.ToldAs .zone (.item .zone 3) shown :=
  ⟨scout_reachable, rfl, rfl,
    (GameTag.renderings_agree .zone).2 scout .zone _ scout_reachable rfl rfl⟩

end CardCodex
