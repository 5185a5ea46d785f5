/-
Module: CardCodex.Proofs.Slots
Purpose: The cards of a database and the slots it keeps for their ids agree after every
  run of insertions, so that a database answers as an ordered table of cards would.
Main exports: Database.Indexed, Database.Indexed.insert, Database.Indexed.ext,
  Database.holding, Database.Indexed.eq_holding, Database.byId_insert, Database.ofCards,
  Database.ofCards_eq_holding, Database.Reflects, Database.ofCards_reflects
-/
import Mathlib.Data.Finset.Card
import CardCodex.Card.Database
import CardCodex.Proofs.InsertionOrder

namespace CardCodex.Database

/-- The ids of the cards, in order. -/
def ids (database : Database) : List String :=
  database.cards.toList.map Card.id

/-- The cards as a table under their ids. -/
def byId (database : Database) : Assoc String Card :=
  ⟨database.cards.toList.map fun card => (card.id, card)⟩

theorem keys_byId (database : Database) : database.byId.keys = database.ids := by
  simp [byId, ids, Assoc.keys, Function.comp_def]

/-- A lookup by id in the table of the cards is a scan of the cards. -/
theorem findIn_map_id (cards : List Card) (id : String) :
    Assoc.findIn id (cards.map fun card => (card.id, card)) =
      cards.find? fun card => card.id == id := by
  induction cards with
  | nil => rfl
  | cons card rest inductionHypothesis =>
      by_cases same : card.id = id <;> simp [Assoc.findIn, same, inductionHypothesis]

theorem find?_byId (database : Database) (id : String) :
    database.byId.find? id = database.cards.toList.find? fun card => card.id == id :=
  findIn_map_id database.cards.toList id

/-- The ids differ, and the slots are those ids with their positions. -/
structure Indexed (database : Database) : Prop where
  ids_nodup : database.ids.Nodup
  slots_eq : database.slots.entries = database.ids.zipIdx

namespace Indexed

variable {database : Database}

theorem keys_slots (indexed : database.Indexed) : database.slots.keys = database.ids := by
  rw [Assoc.keys, indexed.slots_eq, List.zipIdx_map_fst]

theorem distinctKeys_slots (indexed : database.Indexed) : database.slots.DistinctKeys := by
  rw [Assoc.DistinctKeys, indexed.keys_slots]
  exact indexed.ids_nodup

theorem distinctKeys_byId (indexed : database.Indexed) : database.byId.DistinctKeys := by
  rw [Assoc.DistinctKeys, keys_byId]
  exact indexed.ids_nodup

/-- An id has a slot exactly when the card with that id stands there. -/
theorem find?_slots_eq_some_iff (indexed : database.Indexed) {id : String} {slot : Nat} :
    database.slots.find? id = some slot ↔
      ∃ card, database.cards[slot]? = some card ∧ card.id = id := by
  rw [Assoc.find?_eq_some_iff indexed.distinctKeys_slots, indexed.slots_eq,
    List.mem_zipIdx_iff_getElem?]
  simp [ids, List.getElem?_map]

/-- A slot holds the card whose id it is kept for. -/
theorem slot_holds (indexed : database.Indexed) {entry : String × Nat}
    (member : entry ∈ database.slots.entries) :
    ∃ card, database.cards[entry.2]? = some card ∧ card.id = entry.1 := by
  apply indexed.find?_slots_eq_some_iff.mp
  exact (Assoc.find?_eq_some_iff indexed.distinctKeys_slots).mpr member

/-- A database finds what the table of its cards finds. -/
theorem find?_eq_byId (indexed : database.Indexed) (id : String) :
    database.find? id = database.byId.find? id := by
  cases found : database.slots.find? id with
  | none =>
      have missing : id ∉ database.byId.keys := by
        rw [keys_byId, ← indexed.keys_slots]
        exact Assoc.find?_eq_none_iff.mp found
      rw [find?, found, Assoc.find?_eq_none_iff.mpr missing]
      rfl
  | some slot =>
      obtain ⟨card, here, idEq⟩ := indexed.find?_slots_eq_some_iff.mp found
      have member : (id, card) ∈ database.byId.entries := by
        rw [byId, ← idEq]
        exact List.mem_map.mpr ⟨card, (Array.mem_of_getElem? here).val, rfl⟩
      rw [find?, found, (Assoc.find?_eq_some_iff indexed.distinctKeys_byId).mpr member]
      exact here

/-- A lookup finds what a scan of the cards finds. -/
theorem find?_eq_scan (indexed : database.Indexed) (id : String) :
    database.find? id = database.cards.toList.find? fun card => card.id == id := by
  rw [indexed.find?_eq_byId, find?_byId]

/-- Each card is found under its id. -/
theorem find?_id (indexed : database.Indexed) {card : Card}
    (member : card ∈ database.cards.toList) : database.find? card.id = some card := by
  rw [indexed.find?_eq_byId, Assoc.find?_eq_some_iff indexed.distinctKeys_byId]
  exact List.mem_map.mpr ⟨card, member, rfl⟩

/-- What is found under the ids in order are the cards in order. -/
theorem filterMap_find?_ids (indexed : database.Indexed) :
    database.ids.filterMap database.find? = database.cards.toList := by
  rw [ids, List.filterMap_map]
  calc
    database.cards.toList.filterMap (database.find? ∘ Card.id)
      = database.cards.toList.filterMap some :=
        List.filterMap_congr fun _ member => indexed.find?_id member
    _ = database.cards.toList := List.filterMap_some

/-- There are as many cards as there are different ids in the list that they come from. -/
theorem size_eq_card (indexed : database.Indexed) {origin : List String}
    (idsEq : database.ids = origin.eraseDups) : database.size = origin.toFinset.card := by
  have sameIds : database.ids.toFinset = origin.toFinset := by
    ext id
    rw [idsEq, List.mem_toFinset, List.mem_toFinset, List.mem_eraseDups]
  calc
    database.size = database.ids.length := by simp [size, ids]
    _ = database.ids.toFinset.card := (List.toFinset_card_of_nodup indexed.ids_nodup).symm
    _ = origin.toFinset.card := by rw [sameIds]

/-- Databases that hold the same cards in the same order have the same slots. -/
theorem ext {other : Database} (indexed : database.Indexed) (otherIndexed : other.Indexed)
    (sameCards : database.cards = other.cards) : database = other := by
  have sameSlots : database.slots.entries = other.slots.entries := by
    rw [indexed.slots_eq, otherIndexed.slots_eq, ids, ids, sameCards]
  rcases database with ⟨cards, ⟨entries⟩⟩
  rcases other with ⟨otherCards, ⟨otherEntries⟩⟩
  simp only at sameCards sameSlots
  rw [sameCards, sameSlots]

end Indexed

/-! ### A database by its cards -/

/-- The database that holds these cards in this order, with a slot for the id of each at
the place where it stands. -/
def holding (cards : List Card) : Database :=
  { cards := cards.toArray
    slots := ⟨(cards.map Card.id).zipIdx⟩ }

/-- Cards with different ids agree with the slots at their places. -/
theorem indexed_holding {cards : List Card} (distinct : (cards.map Card.id).Nodup) :
    (holding cards).Indexed :=
  ⟨distinct, rfl⟩

/-- An indexed database is known by its cards. -/
theorem Indexed.eq_holding {database : Database} (indexed : database.Indexed) :
    database = holding database.cards.toList := by
  apply indexed.ext (indexed_holding indexed.ids_nodup)
  exact Array.toArray_toList.symm

/-! ### One insertion -/

/-- An insertion replaces the card that has the id, in its slot. -/
theorem insert_of_find?_eq_some {database : Database} {card : Card} {slot : Nat}
    (found : database.slots.find? card.id = some slot) :
    database.insert card =
      { database with cards := database.cards.setIfInBounds slot card } := by
  rw [insert, found]

/-- An insertion puts a card with a new id last. -/
theorem insert_of_find?_eq_none {database : Database} {card : Card}
    (missing : database.slots.find? card.id = none) :
    database.insert card =
      { cards := database.cards.push card
        slots := database.slots.insert card.id database.cards.size } := by
  rw [insert, missing]

/-- A card of a database after an insertion is the new one or was there before. -/
theorem mem_cards_insert {database : Database} {card other : Card}
    (member : other ∈ (database.insert card).cards.toList) :
    other = card ∨ other ∈ database.cards.toList := by
  cases found : database.slots.find? card.id with
  | some slot =>
      rw [insert_of_find?_eq_some found, Array.toList_setIfInBounds] at member
      rcases List.mem_or_eq_of_mem_set member with old | new
      · exact .inr old
      · exact .inl new
  | none =>
      rw [insert_of_find?_eq_none found, Array.toList_push, List.mem_append] at member
      rcases member with old | new
      · exact .inr old
      · exact .inl (List.mem_singleton.mp new)

/-- The table of the cards after an insertion. -/
theorem byId_insert {database : Database} (indexed : database.Indexed) (card : Card) :
    (database.insert card).byId = database.byId.insert card.id card := by
  cases found : database.slots.find? card.id with
  | some slot =>
      obtain ⟨held, here, idEq⟩ := indexed.find?_slots_eq_some_iff.mp found
      have holds :
          (database.cards.toList.map fun card => (card.id, card))[slot]? =
            some (card.id, held) := by
        simp [here, idEq]
      have replaced := Assoc.insertIn_eq_set indexed.distinctKeys_byId holds card
      rw [insert_of_find?_eq_some found]
      refine congrArg Assoc.mk (Eq.trans ?_ replaced.symm)
      simp [byId, List.map_set]
  | none =>
      have missing : card.id ∉ database.byId.keys := by
        rw [keys_byId, ← indexed.keys_slots]
        exact Assoc.find?_eq_none_iff.mp found
      have appended := Assoc.entries_insert_of_not_mem card missing
      rw [insert_of_find?_eq_none found]
      refine congrArg Assoc.mk (Eq.trans ?_ appended.symm)
      simp [byId]

namespace Indexed

variable {database : Database}

theorem empty : Database.empty.Indexed :=
  ⟨List.nodup_nil, rfl⟩

/-- An insertion keeps the cards and the slots in agreement. -/
theorem insert (indexed : database.Indexed) (card : Card) : (database.insert card).Indexed := by
  have idsNodup : (database.insert card).ids.Nodup := by
    rw [← keys_byId, byId_insert indexed]
    exact indexed.distinctKeys_byId.insert card.id card
  refine ⟨idsNodup, ?_⟩
  cases found : database.slots.find? card.id with
  | some slot =>
      -- The ids do not change: the new card has the id of the card it replaces.
      obtain ⟨held, here, idEq⟩ := indexed.find?_slots_eq_some_iff.mp found
      have sameIds : (database.insert card).ids = database.ids := by
        have present : card.id ∈ database.byId.keys := by
          rw [keys_byId, ← indexed.keys_slots, ← Assoc.isSome_find?_iff, found]
          rfl
        rw [← keys_byId, byId_insert indexed, Assoc.keys_insert_of_mem card present, keys_byId]
      rw [sameIds, insert_of_find?_eq_some found]
      exact indexed.slots_eq
  | none =>
      have missing : card.id ∉ database.slots.keys := Assoc.find?_eq_none_iff.mp found
      rw [insert_of_find?_eq_none found, Assoc.entries_insert_of_not_mem _ missing,
        indexed.slots_eq]
      simp [ids, List.zipIdx_append]

end Indexed

/-! ### A run of insertions -/

/-- The database of a list of cards, inserted one after the other. -/
def ofCards (cards : List Card) : Database :=
  cards.foldl insert empty

theorem ofCards_append_singleton (cards : List Card) (card : Card) :
    ofCards (cards ++ [card]) = (ofCards cards).insert card := by
  simp [ofCards]

theorem indexed_ofCards (cards : List Card) : (ofCards cards).Indexed := by
  induction cards using List.reverseRecOn with
  | nil => exact Indexed.empty
  | append_singleton cards card inductionHypothesis =>
      rw [ofCards_append_singleton]
      exact inductionHypothesis.insert card

/-- A run of insertions into a database is a run of insertions into the table of
its cards. -/
theorem byId_ofCards (cards : List Card) :
    (ofCards cards).byId = Assoc.ofList (cards.map fun card => (card.id, card)) := by
  induction cards using List.reverseRecOn with
  | nil => rfl
  | append_singleton cards card inductionHypothesis =>
      rw [ofCards_append_singleton, byId_insert (indexed_ofCards cards), inductionHypothesis,
        List.map_append, List.map_singleton, Assoc.ofList_append_singleton]

theorem cards_eq_map_byId (database : Database) :
    database.cards.toList = database.byId.entries.map Prod.snd := by
  simp [byId, Function.comp_def]

/-- Cards with different ids, inserted one after the other, are held just as they are. -/
theorem ofCards_eq_holding {cards : List Card} (distinct : (cards.map Card.id).Nodup) :
    ofCards cards = holding cards := by
  have distinctKeys : ((cards.map fun card => (card.id, card)).map Prod.fst).Nodup := by
    simpa [Function.comp_def] using distinct
  have sameCards : (ofCards cards).cards.toList = cards := by
    rw [cards_eq_map_byId, byId_ofCards, Assoc.entries_ofList_of_nodup distinctKeys]
    simp [Function.comp_def]
  calc
    ofCards cards = holding (ofCards cards).cards.toList := (indexed_ofCards cards).eq_holding
    _ = holding cards := congrArg holding sameCards

theorem ids_ofCards (cards : List Card) :
    (ofCards cards).ids = (cards.map Card.id).eraseDups := by
  rw [← keys_byId, byId_ofCards, Assoc.keys_ofList]
  simp [Function.comp_def]

/-- The card found is the last one that was inserted under the id. -/
theorem find?_ofCards (cards : List Card) (id : String) :
    (ofCards cards).find? id = cards.reverse.find? fun card => card.id == id := by
  rw [(indexed_ofCards cards).find?_eq_byId, byId_ofCards, Assoc.find?_ofList,
    ← List.map_reverse, findIn_map_id]

/-- A card of a database is the last one that was inserted under its id. -/
theorem exists_split_of_mem_ofCards {inserted : List Card} {card : Card}
    (member : card ∈ (ofCards inserted).cards.toList) :
    ∃ before after, inserted = before ++ card :: after ∧ card.id ∉ after.map Card.id := by
  have entryMember : (card.id, card) ∈ (ofCards inserted).byId.entries :=
    List.mem_map.mpr ⟨card, member, rfl⟩
  rw [byId_ofCards] at entryMember
  rcases (Assoc.merges_ofList (inserted.map fun card => (card.id, card))).last_value entryMember
    with ⟨before, after, split, last⟩
  rcases List.map_eq_append_iff.mp split with ⟨front, tail, insertedEq, rfl, tailEq⟩
  rcases List.map_eq_cons_iff.mp tailEq with ⟨other, rest, rfl, otherEq, rfl⟩
  obtain rfl : other = card := congrArg Prod.snd otherEq
  refine ⟨front, rest, insertedEq, ?_⟩
  simpa [Function.comp_def] using last

/-! ### What a database shows of its history -/

/-- What a database shows of the cards that were inserted into it. -/
structure Reflects (database : Database) (inserted : List Card) : Prop where
  /-- No two cards share an id. -/
  ids_nodup : database.ids.Nodup
  /-- The ids stand in the order of their first insertion. -/
  ids_eq : database.ids = (inserted.map Card.id).eraseDups
  /-- Each card is the last one inserted under its id. -/
  last_inserted : ∀ card ∈ database.cards.toList,
    ∃ before after, inserted = before ++ card :: after ∧ card.id ∉ after.map Card.id
  /-- A lookup finds what a scan of the cards finds. -/
  find?_eq_scan : ∀ id,
    database.find? id = database.cards.toList.find? fun card => card.id == id
  /-- A lookup finds the last card inserted under the id. -/
  find?_eq_last : ∀ id,
    database.find? id = inserted.reverse.find? fun card => card.id == id
  /-- A lookup fails for exactly the ids that were never inserted. -/
  find?_eq_none_iff : ∀ id, database.find? id = none ↔ id ∉ inserted.map Card.id
  /-- Each card has exactly one entry among the slots. -/
  keys_slots : database.slots.keys = database.ids
  /-- A slot is never out of bounds. -/
  slot_lt : ∀ entry ∈ database.slots.entries, entry.2 < database.cards.size
  /-- A slot holds the card whose id it is kept for. -/
  slot_holds : ∀ entry ∈ database.slots.entries,
    ∃ card, database.cards[entry.2]? = some card ∧ card.id = entry.1
  size_eq : database.size = (inserted.map Card.id).toFinset.card
  isEmpty_iff : database.isEmpty = true ↔ inserted = []

/-- A database shows the last card inserted under each id, in the order in which the
ids first came, and its slots point to these cards. -/
theorem ofCards_reflects (inserted : List Card) : (ofCards inserted).Reflects inserted := by
  have indexed := indexed_ofCards inserted
  refine
    { ids_nodup := indexed.ids_nodup
      ids_eq := ids_ofCards inserted
      last_inserted := fun card member => exists_split_of_mem_ofCards member
      find?_eq_scan := indexed.find?_eq_scan
      find?_eq_last := find?_ofCards inserted
      find?_eq_none_iff := ?_
      keys_slots := indexed.keys_slots
      slot_lt := ?_
      slot_holds := fun entry member => indexed.slot_holds member
      size_eq := indexed.size_eq_card (ids_ofCards inserted)
      isEmpty_iff := ?_ }
  · intro id
    rw [find?_ofCards]
    simp
  · intro entry member
    rcases indexed.slot_holds member with ⟨card, here, _⟩
    exact (Array.getElem?_eq_some_iff.mp here).1
  · have sizeZero : (ofCards inserted).isEmpty = true ↔ (ofCards inserted).size = 0 := by
      simp [isEmpty, size]
    rw [sizeZero, indexed.size_eq_card (ids_ofCards inserted)]
    simp

end CardCodex.Database
