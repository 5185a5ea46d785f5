/-
Module: CardCodex.Proofs.Spellings
Purpose: What a card holds when its object spells a tag more than once.  Members with the
  same key are merged first and members for the same tag after that, so a tag stands in the
  place of its first member and has the value of the spelling that came up last.
Main exports: GameTag.SpelledBy, GameTag.spellings, Card.FollowsMembers,
  Card.Reads.followsMembers, Database.cards_follow_members, Database.last_member_not_held
-/
import CardCodex.Proofs.Reading

namespace CardCodex

/-- Elements that are dropped as repeated stay dropped when the rest is mapped. -/
theorem Assoc.eraseDups_map_eraseDups {K L : Type} [DecidableEq K] [DecidableEq L]
    (change : K → L) (list : List K) :
    (list.eraseDups.map change).eraseDups = (list.map change).eraseDups := by
  induction list using List.reverseRecOn with
  | nil => rfl
  | append_singleton list last inductionHypothesis =>
      rw [eraseDups_append_singleton, List.map_append, List.map_singleton,
        eraseDups_append_singleton]
      by_cases present : last ∈ list
      · rw [if_pos present, if_pos (List.mem_map_of_mem present), inductionHypothesis]
      · rw [if_neg present, List.map_append, List.map_singleton, eraseDups_append_singleton,
          inductionHypothesis]
        simp only [List.mem_map, List.mem_eraseDups]

/-! ### Spellings of a tag -/

instance (first second : String) : Decidable (EqUpToCase first second) :=
  decidable_of_iff (upperCase first = upperCase second) upperCase_eq_upperCase_iff

namespace GameTag

/-- A key spells a tag when it is the name of the tag in some ASCII casing. -/
def SpelledBy (tag : GameTag) (key : String) : Prop :=
  EqUpToCase key (Enumeration.itemName tag)

instance (tag : GameTag) (key : String) : Decidable (tag.SpelledBy key) :=
  inferInstanceAs (Decidable (EqUpToCase key (Enumeration.itemName tag)))

/-- The different spellings of a tag among the keys of some members, in the order in which
they come up. -/
def spellings (tag : GameTag) (members : List (String × Json)) : List String :=
  (members.map Prod.fst).eraseDups.filter fun key => tag.SpelledBy key

theorem spelledBy_iff {tag : GameTag} {key : String} :
    tag.SpelledBy key ↔ Enumeration.itemName tag = upperCase key := by
  rw [SpelledBy, ← upperCase_eq_upperCase_iff,
    upperCase_eq_self (Enumeration.isCanonical_itemName tag)]
  exact eq_comm

/-- A key spells one tag at most. -/
theorem SpelledBy.eq {tag other : GameTag} {key : String} (spelled : tag.SpelledBy key)
    (alsoSpelled : other.SpelledBy key) : tag = other := by
  apply Enumeration.itemName_injective
  rw [spelledBy_iff.mp spelled, spelledBy_iff.mp alsoSpelled]

end GameTag

namespace Card

theorem entryReads_ok_iff {id : String} {member : String × Json}
    {entry : GameTag × TagValue} :
    EntryReads id member (.ok entry) ↔
      entry.1.SpelledBy member.1 ∧ TagValue.Reads entry.1 member.2 (.ok entry.2) := by
  rw [GameTag.spelledBy_iff]
  constructor
  · intro reads
    cases reads with
    | entry named reads => exact ⟨named, reads⟩
  · intro ⟨named, reads⟩
    exact .entry named reads

/-! ### Members that are read one after the other -/

/-- What is read of members with different keys. -/
abbrev EntriesRead (id : String) (members : List (String × Json))
    (entries : List (GameTag × TagValue)) : Prop :=
  List.Forall₂ (fun member entry => EntryReads id member (.ok entry)) members entries

variable {id : String} {members merged : List (String × Json)}
  {entries tags : List (GameTag × TagValue)}

/-- The first entry for a tag is read of the first member that spells the tag. -/
theorem findIn_of_entriesRead (read : EntriesRead id members entries) (tag : GameTag)
    (value : TagValue) :
    Assoc.findIn tag entries = some value ↔
      ∃ key json, members.find? (fun member => tag.SpelledBy member.1) = some (key, json) ∧
        TagValue.Reads tag json (.ok value) := by
  induction read with
  | nil => simp [Assoc.findIn]
  | @cons member entry rest others head _ inductionHypothesis =>
      obtain ⟨key, json⟩ := member
      obtain ⟨held, first⟩ := entry
      obtain ⟨spelled, reads⟩ := entryReads_ok_iff.mp head
      by_cases same : held = tag
      · subst same
        have readsFirst : TagValue.Reads held json (.ok value) ↔ first = value := by
          rw [TagValue.reads_iff, TagValue.reads_iff.mp reads, Except.ok.injEq]
        simp [Assoc.findIn, spelled, readsFirst]
      · have notSpelled : ¬ tag.SpelledBy key := fun other => same (spelled.eq other)
        simp [Assoc.findIn, same, notSpelled, inductionHypothesis]

/-- The tags that are read are the tags that the keys spell. -/
theorem map_fst_of_entriesRead (read : EntriesRead id members entries)
    {named : String → GameTag} (spelled : ∀ member ∈ members, (named member.1).SpelledBy member.1) :
    entries.map Prod.fst = (members.map Prod.fst).map named := by
  induction read with
  | nil => rfl
  | cons head _ inductionHypothesis =>
      have sameTag := (entryReads_ok_iff.mp head).1.eq (spelled _ List.mem_cons_self)
      rw [List.map_cons, List.map_cons, List.map_cons, sameTag, inductionHypothesis]
      intro member later
      exact spelled member (List.mem_cons_of_mem _ later)

/-- The tags that the keys of members spell. -/
theorem mem_iff_of_spelled {named : List GameTag}
    (spelled : List.Forall₂ (fun member tag => GameTag.SpelledBy tag member.1) members named)
    {tag : GameTag} : tag ∈ named ↔ ∃ member ∈ members, tag.SpelledBy member.1 := by
  constructor
  · intro isNamed
    exact exists_counterpart_left spelled isNamed
  · rintro ⟨member, present, isSpelled⟩
    obtain ⟨other, isNamed, otherSpelled⟩ := exists_counterpart_right spelled present
    rw [isSpelled.eq otherSpelled]
    exact isNamed

/-! ### What a card holds of the members of its object -/

/-- A card holds what the members of its object say, taken as they are written. -/
structure FollowsMembers (card : Card) (members : List (String × Json)) : Prop where
  /-- A tag is held when a key spells it. -/
  mem_keys_iff : ∀ tag : GameTag,
    tag ∈ card.tags.keys ↔ ∃ member ∈ members, tag.SpelledBy member.1
  /-- Every key spells a tag, and each tag stands in the place of the first key that spells
  it. -/
  keys_eq : ∃ named : List GameTag,
    List.Forall₂ (fun member tag => GameTag.SpelledBy tag member.1) members named ∧
      card.tags.keys = named.eraseDups
  /-- A tag holds the reading of the last member with that spelling of it which came up
  last. -/
  get?_eq_some_iff : ∀ (tag : GameTag) (value : TagValue), card.get? tag = some value ↔
    ∃ spelling before json after, (tag.spellings members).getLast? = some spelling ∧
      members = before ++ (spelling, json) :: after ∧ spelling ∉ after.map Prod.fst ∧
      TagValue.Reads tag json (.ok value)
  /-- The last member for a tag is the one that counts, unless another spelling came up
  after its own. -/
  last_member : ∀ (tag : GameTag) before key json after,
    members = before ++ (key, json) :: after → tag.SpelledBy key →
      (∀ later ∈ after, ¬ tag.SpelledBy later.1) →
      (tag.spellings members).getLast? = some key →
        ∃ value, TagValue.Reads tag json (.ok value) ∧ card.get? tag = some value

/-- The last merged member for a tag has the spelling that came up last. -/
theorem find?_reverse_eq_some_iff (merges : Assoc.Merges members merged) {tag : GameTag}
    {key : String} {json : Json} :
    merged.reverse.find? (fun member => tag.SpelledBy member.1) = some (key, json) ↔
      (tag.spellings members).getLast? = some key ∧ (key, json) ∈ merged := by
  have lastSpelling : (tag.spellings members).getLast? =
      (merged.reverse.find? fun member => tag.SpelledBy member.1).map Prod.fst := by
    rw [GameTag.spellings, ← merges.keys_eq, List.getLast?_filter, ← List.map_reverse,
      List.find?_map]
    rfl
  rw [lastSpelling]
  constructor
  · intro found
    rw [found]
    exact ⟨rfl, List.mem_reverse.mp (List.mem_of_find?_eq_some found)⟩
  · rintro ⟨spelling, member⟩
    obtain ⟨⟨_, other⟩, found, rfl⟩ := Option.map_eq_some_iff.mp spelling
    -- Merged members have different keys, so one value only stands beside the spelling.
    have otherMember := List.mem_reverse.mp (List.mem_of_find?_eq_some found)
    have heldOther := Assoc.findIn_eq_some_of_mem merges.nodup_keys otherMember
    have heldValue := Assoc.findIn_eq_some_of_mem merges.nodup_keys member
    rw [heldOther] at heldValue
    rw [found, Option.some.inj heldValue]

section

variable (merges : Assoc.Merges members merged) (read : EntriesRead id merged entries)
  (tagsMerge : Assoc.Merges entries tags)

include merges read tagsMerge

theorem get?_of_merges (tag : GameTag) (value : TagValue) :
    (⟨id, ⟨tags⟩⟩ : Card).get? tag = some value ↔
      ∃ spelling before json after, (tag.spellings members).getLast? = some spelling ∧
        members = before ++ (spelling, json) :: after ∧ spelling ∉ after.map Prod.fst ∧
        TagValue.Reads tag json (.ok value) := by
  have held : (⟨id, ⟨tags⟩⟩ : Card).get? tag = Assoc.findIn tag entries.reverse := by
    rw [← Assoc.find?_ofList, tagsMerge.entries_eq]
    rfl
  rw [held, findIn_of_entriesRead (List.forall₂_reverse_iff.mpr read)]
  simp only [find?_reverse_eq_some_iff merges, merges.mem_iff]
  constructor
  · rintro ⟨key, json, ⟨spelling, before, after, split, last⟩, reads⟩
    exact ⟨key, before, json, after, spelling, split, last, reads⟩
  · rintro ⟨key, before, json, after, spelling, split, last, reads⟩
    exact ⟨key, json, ⟨spelling, before, after, split, last⟩, reads⟩

theorem keys_of_merges :
    ∃ named : List GameTag,
      List.Forall₂ (fun member tag => GameTag.SpelledBy tag member.1) members named ∧
        tags.map Prod.fst = named.eraseDups := by
  -- The tag depends on the key alone, so that dropping repeated keys first changes nothing.
  have eachSpells : ∀ key, ∃ tag : GameTag, key ∈ members.map Prod.fst → tag.SpelledBy key := by
    intro key
    by_cases present : key ∈ members.map Prod.fst
    · rw [← List.mem_eraseDups, ← merges.keys_eq] at present
      obtain ⟨member, memberMerged, rfl⟩ := List.mem_map.mp present
      obtain ⟨entry, _, reads⟩ := exists_counterpart_right read memberMerged
      exact ⟨entry.1, fun _ => (entryReads_ok_iff.mp reads).1⟩
    · exact ⟨.invalid, fun isKey => absurd isKey present⟩
  choose named spelled using eachSpells
  refine ⟨(members.map Prod.fst).map named, ?_, ?_⟩
  · rw [List.map_map, List.forall₂_map_right_iff, List.forall₂_same]
    intro member present
    exact spelled member.1 (List.mem_map_of_mem present)
  · have mergedSpelled : ∀ member ∈ merged, (named member.1).SpelledBy member.1 := by
      intro member present
      exact spelled member.1 (List.mem_map_of_mem (merges.mem present))
    rw [tagsMerge.keys_eq, map_fst_of_entriesRead read mergedSpelled, merges.keys_eq,
      Assoc.eraseDups_map_eraseDups]

theorem followsMembers_of_merges : (⟨id, ⟨tags⟩⟩ : Card).FollowsMembers members := by
  have held := get?_of_merges merges read tagsMerge
  obtain ⟨named, spelled, keysEq⟩ := keys_of_merges merges read tagsMerge
  constructor
  · intro tag
    change tag ∈ tags.map Prod.fst ↔ _
    rw [keysEq, List.mem_eraseDups, mem_iff_of_spelled spelled]
  · exact ⟨named, spelled, keysEq⟩
  · exact held
  · intro tag before key json after split isSpelled noneLater spelling
    have last : key ∉ after.map Prod.fst := by
      intro present
      obtain ⟨later, laterMember, rfl⟩ := List.mem_map.mp present
      exact noneLater later laterMember isSpelled
    have member : (key, json) ∈ merged := merges.mem_iff.mpr ⟨before, after, split, last⟩
    obtain ⟨⟨other, value⟩, _, reads⟩ := exists_counterpart_right read member
    obtain ⟨otherSpelled, readsValue⟩ := entryReads_ok_iff.mp reads
    obtain rfl := isSpelled.eq otherSpelled
    exact ⟨value, readsValue,
      (held tag value).mpr ⟨key, before, json, after, spelling, split, last, readsValue⟩⟩

end

/-- A card that an object describes follows its members. -/
theorem Reads.followsMembers {card : Card} (reads : Reads id (.object members) (.ok card)) :
    card.FollowsMembers members := by
  cases reads with
  | card merges read tagsMerge =>
      cases read with
      | all read => exact followsMembers_of_merges merges read tagsMerge

/-- Every card that is read stands in the document with its id and an object, whose members
it follows. -/
theorem Reads.exists_members {document : String × Json} {card : Card}
    (reads : Reads document.1 document.2 (.ok card)) :
    ∃ members, document = (card.id, .object members) ∧ card.FollowsMembers members := by
  have idEq := reads.id_eq
  obtain ⟨key, json⟩ := document
  cases json with
  | object members =>
      refine ⟨members, ?_, reads.followsMembers⟩
      rw [idEq]
  | _ => cases reads

end Card

namespace Database

/-- When no id comes twice in a document, its cards are those of its members in turn, and
each of them follows the members of its object. -/
theorem cards_follow_members {text : String} {database : Database}
    (accepted : parse text = .ok database) (once : (documentIds text).Nodup) :
    ∃ documents, Json.parse? text = some (.object documents) ∧
      List.Forall₂
        (fun document card =>
          ∃ members, document = (card.id, .object members) ∧ card.FollowsMembers members)
        documents database.cards.toList := by
  have reads := reads_parse text
  rw [accepted] at reads
  cases reads with
  | @database documents merged cards parsed merges read =>
      rw [documentIds, parsed] at once
      -- With each id once there is nothing to merge.
      have mergedEq : merged = documents := by
        rw [merges.entries_eq, Assoc.entries_ofList_of_nodup once]
      subst mergedEq
      refine ⟨merged, parsed, ?_⟩
      cases read with
      | all read =>
          apply read.imp
          intro document card cardReads
          exact cardReads.exists_members

/-- Three members for the power of one card, the last of which repeats the spelling of the
first. -/
def threeSpellings : String :=
  "\x7b\"C\": \x7b\"POWER\": 1, \"power\": 2, \"POWER\": 3\x7d\x7d"

/-- The database that `threeSpellings` says. -/
def ofThreeSpellings : Database :=
  empty.insert ⟨"C", ⟨[(.power, .int 2)]⟩⟩

theorem parse_threeSpellings : parse threeSpellings = .ok ofThreeSpellings :=
  rfl

theorem nodup_documentIds_threeSpellings : (documentIds threeSpellings).Nodup := by
  decide

/-- The last member for a tag is lost when it repeats a spelling and another one stands in
between. -/
theorem last_member_not_held :
    Json.parse? threeSpellings =
        some (.object
          [("C", .object [("POWER", .integer 1), ("power", .integer 2), ("POWER", .integer 3)])]) ∧
      (documentIds threeSpellings).Nodup ∧ parse threeSpellings = .ok ofThreeSpellings ∧
      GameTag.SpelledBy .power "POWER" ∧ TagValue.Reads .power (.integer 3) (.ok (.int 3)) ∧
      (ofThreeSpellings.find? "C").bind (·.get? .power) = some (.int 2) := by
  refine ⟨rfl, nodup_documentIds_threeSpellings, parse_threeSpellings, by decide, ?_, rfl⟩
  exact TagValue.reads_iff.mpr rfl

theorem threeSpellings_card_follows_members :
    parse threeSpellings = .ok ofThreeSpellings ∧ (documentIds threeSpellings).Nodup ∧
      ∃ documents, Json.parse? threeSpellings = some (.object documents) ∧
        List.Forall₂
          (fun document card =>
            ∃ members, document = (card.id, .object members) ∧ card.FollowsMembers members)
          documents ofThreeSpellings.cards.toList :=
  ⟨parse_threeSpellings, nodup_documentIds_threeSpellings,
    cards_follow_members parse_threeSpellings nodup_documentIds_threeSpellings⟩

end Database

end CardCodex
