/-
Module: CardCodex.Proofs.Writing
Purpose: Well typed cards can be written, and what is written for them says, as a document,
  just these cards again.
Main exports: Written, exists_written, TagValue.Fits.exists_toJson,
  Card.WellTyped.exists_toJson, Database.WellFormed.exists_text
-/
import CardCodex.Card.Written
import CardCodex.Proofs.JsonText
import CardCodex.Proofs.Typing

namespace CardCodex

theorem Enumeration.upperCase_lowerCase_itemName {E : Type} [Enumeration E] (item : E) :
    upperCase (lowerCase (itemName item)) = itemName item := by
  rw [← canonical_eq_upperCase]
  exact canonical_lowerCase (isCanonical_itemName item)

/-! ### Objects that say a list of parts -/

section Parts

variable {A F G : Type} {Reads : String × Json → Except F A → Prop} {room : Nat}

/-- The members of an object say `parts` one by one, and a reader that merges equal
keys finds nothing to merge. -/
structure Written (Reads : String × Json → Except F A → Prop) (room : Nat) (parts : List A)
    (members : List (String × Json)) : Prop where
  merges : Assoc.Merges members members
  reads : ReadsInOrder Reads members (.ok parts)
  writable : (Json.object members).Writable (room + 1)

variable {write : A → Except G (String × Json)} {key : A → String} {parts : List A}

private theorem exists_members
    (each : ∀ part ∈ parts, ∃ json, write part = .ok (key part, json) ∧
      Reads (key part, json) (.ok part) ∧ json.Writable room) :
    ∃ members, parts.mapM write = .ok members ∧ members.map Prod.fst = parts.map key ∧
      List.Forall₂ (fun member part => Reads member (.ok part)) members parts ∧
      ∀ member ∈ members, member.2.Writable room := by
  induction parts with
  | nil =>
      refine ⟨[], rfl, rfl, .nil, ?_⟩
      intro member impossible
      cases impossible
  | cons part rest inductionHypothesis =>
      rcases List.forall_mem_cons.mp each with ⟨⟨json, wrote, reads, writable⟩, others⟩
      rcases inductionHypothesis others with
        ⟨members, wroteRest, keysEq, readsRest, writableRest⟩
      refine ⟨(key part, json) :: members, ?_, ?_, .cons reads readsRest, ?_⟩
      · rw [mapM_cons_of_ok wrote, wroteRest]
        rfl
      · rw [List.map_cons, List.map_cons, keysEq]
      · exact List.forall_mem_cons.mpr ⟨writable, writableRest⟩

/-- Parts that can each be written under a key of its own can be written as an object. -/
theorem exists_written (distinct : (parts.map key).Nodup)
    (each : ∀ part ∈ parts, ∃ json, write part = .ok (key part, json) ∧
      Reads (key part, json) (.ok part) ∧ json.Writable room) :
    ∃ members, parts.mapM write = .ok members ∧ Written Reads room parts members := by
  rcases exists_members each with ⟨members, wrote, keysEq, reads, writable⟩
  refine ⟨members, wrote, ?_⟩
  constructor
  · apply Assoc.merges_self
    rw [keysEq]
    exact distinct
  · exact .all reads
  · exact .object writable

/-- The members that parts are written as are those of the parts, each on its own. -/
theorem mem_iff_of_mapM_eq_ok {members : List (String × Json)}
    (wrote : parts.mapM write = .ok members) {member : String × Json} :
    member ∈ members ↔ ∃ part ∈ parts, write part = .ok member := by
  have inOrder : ReadsInOrder (fun part result => write part = result) parts (.ok members) :=
    (readsInOrder_iff fun _ _ => Iff.rfl).mpr wrote
  cases inOrder with
  | all each =>
      constructor
      · exact exists_counterpart_left each
      · rintro ⟨part, present, wrotePart⟩
        obtain ⟨other, there, wroteOther⟩ := exists_counterpart_right each present
        rw [wrotePart] at wroteOther
        cases wroteOther
        exact there

end Parts

/-! ### Values, cards and databases -/

/-- A text can stand for any 32-bit integer. -/
theorem Json.Writable.word (word : Int32) {room : Nat} :
    (Json.integer word.toInt).Writable room := by
  have low := word.le_toInt
  have high := word.toInt_lt
  apply Json.Writable.integer
  · omega
  · omega

/-- A value that fits its tag can be written, and says itself for that tag. -/
theorem TagValue.Fits.exists_toJson {tag : GameTag} {value : TagValue} (fitting : Fits tag value)
    (room : Nat) :
    ∃ json, value.toJson = .ok json ∧ Reads tag json (.ok value) ∧ json.Writable room := by
  cases fitting with
  | item item isItem =>
      refine ⟨.string (lowerCase (Enumeration.itemName item)), ?_, ?_, .string _⟩
      · rw [toJson, EnumId.nameOf_value]
        rfl
      · apply Reads.itemOfName item isItem
        rw [Enumeration.upperCase_lowerCase_itemName]
  | @text content isText => exact ⟨.string content, rfl, .text isText, .string content⟩
  | @int category value isNumber notText =>
      exact ⟨.integer value.toInt, rfl, .number isNumber notText rfl, .word value⟩

namespace Card

/-- The key of a tag entry in a document. -/
def entryKey (entry : GameTag × TagValue) : String :=
  lowerCase (Enumeration.itemName entry.1)

/-- The member of a card that holds a tag entry. -/
def writeEntry (entry : GameTag × TagValue) : Except LookupError (String × Json) := do
  let json ← entry.2.toJson
  pure (entryKey entry, json)

theorem toJson_eq_ok {card : Card} {members : List (String × Json)}
    (wrote : card.tags.entries.mapM writeEntry = .ok members) :
    card.toJson = .ok (.object members) := by
  change (do
    let members ← card.tags.entries.mapM writeEntry
    pure (Json.object members)) = _
  rw [wrote]
  rfl

theorem nodup_map_entryKey {tags : Assoc GameTag TagValue} (distinct : tags.DistinctKeys) :
    (tags.entries.map entryKey).Nodup := by
  have keysEq : tags.entries.map entryKey =
      tags.keys.map fun tag => lowerCase (Enumeration.itemName tag) := by
    rw [Assoc.keys, List.map_map]
    rfl
  rw [keysEq]
  apply List.Nodup.map
  · intro first second same
    exact Enumeration.lowerCase_itemName_injective same
  · exact distinct

/-- The tags of a well typed card can be written as members, and say themselves there. -/
theorem WellTyped.exists_members {card : Card} (typed : card.WellTyped) (room : Nat) :
    ∃ members, card.tags.entries.mapM writeEntry = .ok members ∧
      Written (EntryReads card.id) room card.tags.entries members := by
  apply exists_written (nodup_map_entryKey typed.tags_distinct)
  intro entry member
  rcases (typed.fits entry member).exists_toJson room with ⟨json, wrote, reads, writable⟩
  refine ⟨json, ?_, ?_, writable⟩
  · rw [writeEntry, wrote]
    rfl
  · apply EntryReads.entry
    · rw [entryKey, Enumeration.upperCase_lowerCase_itemName]
    · exact reads

/-- A well typed card can be written, and says itself under its id. -/
theorem WellTyped.exists_toJson {card : Card} (typed : card.WellTyped) (room : Nat) :
    ∃ json, card.toJson = .ok json ∧ Reads card.id json (.ok card) ∧
      json.Writable (room + 1) := by
  rcases typed.exists_members room with ⟨members, wrote, written⟩
  refine ⟨.object members, toJson_eq_ok wrote, ?_, written.writable⟩
  exact .card written.merges written.reads (Assoc.merges_self typed.tags_distinct)

end Card

namespace Database

/-- The member of a document that holds a card. -/
def writeCard (card : Card) : Except LookupError (String × Json) := do
  let json ← card.toJson
  pure (card.id, json)

theorem toJson_eq_ok {database : Database} {members : List (String × Json)}
    (wrote : database.cards.toList.mapM writeCard = .ok members) :
    database.toJson = .ok (.object members) := by
  change (do
    let members ← database.cards.toList.mapM writeCard
    pure (Json.object members)) = _
  rw [wrote]
  rfl

/-- A well formed database can be written, and its text says the database. -/
theorem WellFormed.exists_text {database : Database} (formed : database.WellFormed) :
    ∃ text, database.written = .ok text ∧ Reads text (.ok database) := by
  have each : ∀ card ∈ database.cards.toList, ∃ json, writeCard card = .ok (card.id, json) ∧
      Card.Reads card.id json (.ok card) ∧ json.Writable (maxDepth - 1) := by
    intro card member
    rcases (formed.typed card member).exists_toJson (maxDepth - 2) with ⟨json, wrote, reads, writable⟩
    refine ⟨json, ?_, reads, writable⟩
    rw [writeCard, wrote]
    rfl
  have listed : ∃ members, database.cards.toList.mapM writeCard = .ok members ∧
      Written (fun member => Card.Reads member.1 member.2) (maxDepth - 1) database.cards.toList
        members := exists_written formed.indexed.ids_nodup each
  rcases listed with ⟨members, wrote, written⟩
  refine ⟨Json.written .indented (.object members), ?_, ?_⟩
  · rw [Database.written, toJson_eq_ok wrote]
    rfl
  · have accepted := Json.parse?_written written.writable .indented
    rw [formed.indexed.eq_holding]
    exact .database accepted written.merges written.reads

end Database

end CardCodex
