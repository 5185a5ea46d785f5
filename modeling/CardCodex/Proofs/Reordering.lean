/-
Module: CardCodex.Proofs.Reordering
Purpose: The order of members does not show in what is looked up.  When no id comes twice in
  a document and no tag twice in a card, the cards and the tags of each card may stand in any
  order: the document is accepted just the same and every lookup answers the same, while
  cards and tags come up in the order in which they are written.
Main exports: Card.TagsOnce, Database.Independent, Database.Reordered, Card.AnswersAlike,
  Database.AnswersAlike, Database.ListedAs, Card.tagsOnce_iff_nodup, Card.reads_iff_of_tagsOnce,
  Database.parse_eq_ok_iff_of_nodup, Database.CardsRead.reordered,
  Database.exists_text_reordered, Database.parse_reordered
-/
import Mathlib.Data.List.Perm.Basic
import CardCodex.Proofs.Spellings
import CardCodex.Proofs.Writing

namespace CardCodex

/-! ### Documents in another order -/

/-- The keys of members spell the tags of a list, one after the other. -/
abbrev Card.SpelledInTurn (members : List (String × Json)) (named : List GameTag) : Prop :=
  List.Forall₂ (fun member tag => GameTag.SpelledBy tag member.1) members named

/-- No tag is spelled by two of the members. -/
def Card.TagsOnce (members : List (String × Json)) : Prop :=
  members.Pairwise fun member later =>
    ∀ tag : GameTag, tag.SpelledBy member.1 → ¬ tag.SpelledBy later.1

/-- The same value, with the members of an object in any order. -/
inductive Json.Reordered : Json → Json → Prop where
  | object {members others : List (String × Json)} (perm : members.Perm others) :
      Reordered (.object members) (.object others)
  | same {json : Json} : Reordered json json

/-- The same id, with the members of its card in any order. -/
structure Card.Reordered (document other : String × Json) : Prop where
  id_eq : document.1 = other.1
  json : Json.Reordered document.2 other.2

namespace Database

/-- The members of a document do not bear on each other: no id comes twice, and no tag comes
twice in a card. -/
structure Independent (documents : List (String × Json)) : Prop where
  ids_nodup : (documents.map Prod.fst).Nodup
  tagsOnce : ∀ document ∈ documents, ∀ members,
    document.2 = .object members → Card.TagsOnce members

/-- The same cards in any order, with the tags of each card in any order. -/
def Reordered (documents others : List (String × Json)) : Prop :=
  ∃ moved, documents.Perm moved ∧ List.Forall₂ Card.Reordered moved others

end Database

/-- Lists have the same images when their elements have, one by one. -/
theorem map_eq_map_of_forall₂ {A B C : Type} {first : A → C} {second : B → C} {members : List A}
    {others : List B}
    (same : List.Forall₂ (fun member other => first member = second other) members others) :
    members.map first = others.map second := by
  rw [← List.forall₂_eq_eq_eq, List.forall₂_map_left_iff, List.forall₂_map_right_iff]
  exact same

theorem Card.TagsOnce.of_perm {members others : List (String × Json)} (once : TagsOnce members)
    (perm : members.Perm others) : TagsOnce others := by
  apply perm.pairwise once
  intro member later apart tag spelled alsoSpelled
  exact apart tag alsoSpelled spelled

theorem Json.Reordered.symm {first second : Json} (reordered : Reordered first second) :
    Reordered second first := by
  cases reordered with
  | object perm => exact .object perm.symm
  | same => exact .same

theorem Card.Reordered.symm {document other : String × Json}
    (reordered : Card.Reordered document other) : Card.Reordered other document :=
  ⟨reordered.id_eq.symm, reordered.json.symm⟩

namespace Database

variable {documents others : List (String × Json)}

theorem Reordered.symm (reordered : Reordered documents others) : Reordered others documents := by
  obtain ⟨moved, perm, within⟩ := reordered
  -- The cards may as well be reordered within first and moved after that.
  obtain ⟨inPlace, withinFirst, permLast⟩ := List.perm_comp_forall₂ perm within
  refine ⟨inPlace, permLast.symm, withinFirst.flip.imp ?_⟩
  intro other document reorderedCard
  exact reorderedCard.symm

theorem Independent.reordered (independent : Independent documents)
    (reordered : Reordered documents others) : Independent others := by
  obtain ⟨moved, perm, within⟩ := reordered
  constructor
  · have sameIds : moved.map Prod.fst = others.map Prod.fst :=
      map_eq_map_of_forall₂ (within.imp fun _ _ reorderedCard => reorderedCard.id_eq)
    rw [← sameIds]
    exact (perm.map Prod.fst).nodup_iff.mp independent.ids_nodup
  · rintro ⟨id, _⟩ present members rfl
    obtain ⟨⟨source, json⟩, sourcePresent, _, reorderedJson⟩ :=
      exists_counterpart_left within present
    have once := independent.tagsOnce _ (perm.mem_iff.mpr sourcePresent)
    cases reorderedJson with
    | object permMembers => exact (once _ rfl).of_perm permMembers
    | same => exact once _ rfl

end Database

/-! ### Answers that agree -/

namespace Card

/-- What the lookups in two cards have in common. -/
structure AnswersAlike (card other : Card) : Prop where
  get?_eq : ∀ tag, card.get? tag = other.get? tag
  int?_eq : ∀ tag, card.int? tag = other.int? tag
  text?_eq : ∀ tag, card.text? tag = other.text? tag
  name?_eq : card.name? = other.name?
  cardType?_eq : card.cardType? = other.cardType?
  tribe?_eq : card.tribe? = other.tribe?

/-- Cards that hold the same values answer alike. -/
theorem AnswersAlike.of_get? {card other : Card} (same : ∀ tag, card.get? tag = other.get? tag) :
    card.AnswersAlike other := by
  have sameInt : ∀ tag, card.int? tag = other.int? tag := by
    intro tag
    rw [int?, int?, same]
  have sameText : ∀ tag, card.text? tag = other.text? tag := by
    intro tag
    rw [text?, text?, same]
  refine ⟨same, sameInt, sameText, sameText .name, ?_, ?_⟩
  · rw [cardType?, cardType?, sameInt]
  · rw [tribe?, tribe?, sameInt]

end Card

namespace Database

/-- Two databases have the same ids, and under each id cards that answer alike. -/
structure AnswersAlike (first second : Database) : Prop where
  ids_perm : first.ids.Perm second.ids
  find? : ∀ id, Option.Rel Card.AnswersAlike (first.find? id) (second.find? id)

/-- The cards stand in the order of the members of a document, and the tags of each card in
the order of the members of its object. -/
def ListedAs (database : Database) (documents : List (String × Json)) : Prop :=
  List.Forall₂
    (fun document card => ∃ members, document = (card.id, .object members) ∧
      Card.SpelledInTurn members card.tags.keys)
    documents database.cards.toList

end Database

/-! ### One card -/

/-- What is read as the value of a tag can be written. -/
theorem TagValue.Reads.writable {tag : GameTag} {json : Json} {value : TagValue}
    (reads : Reads tag json (.ok value)) (room : Nat) : json.Writable room := by
  cases reads with
  | text => exact .string _
  | itemOfName => exact .string _
  | itemOfValue item _ denoted => exact denoted ▸ .word _
  | truth => exact .bool _
  | number _ _ denoted => exact denoted ▸ .word _

namespace Card

variable {id : String} {members others : List (String × Json)}
  {entries : List (GameTag × TagValue)}

/-- No tag is spelled twice just when the tags that are spelled in turn differ. -/
theorem tagsOnce_iff_nodup {named : List GameTag} (spelled : SpelledInTurn members named) :
    TagsOnce members ↔ named.Nodup := by
  induction spelled with
  | nil => exact iff_of_true .nil .nil
  | @cons member tag rest namedRest head spelledRest inductionHypothesis =>
      rw [TagsOnce, List.pairwise_cons, ← TagsOnce, inductionHypothesis, List.nodup_cons,
        mem_iff_of_spelled spelledRest]
      apply and_congr_left'
      constructor
      · rintro apart ⟨later, present, spells⟩
        exact apart later present tag head spells
      · intro notAgain later present other spells alsoSpells
        obtain rfl := head.eq spells
        exact notAgain ⟨later, present, alsoSpells⟩

/-- Keys that spell different tags are different. -/
theorem TagsOnce.nodup_keys (once : TagsOnce members) {named : List GameTag}
    (spelled : SpelledInTurn members named) : (members.map Prod.fst).Nodup := by
  rw [List.Nodup, List.pairwise_map]
  apply once.imp_of_mem
  intro member later present _ apart sameKey
  obtain ⟨tag, _, spells⟩ := exists_counterpart_right spelled present
  exact apart tag spells (sameKey ▸ spells)

theorem spelledInTurn_of_entriesRead (read : EntriesRead id members entries) :
    SpelledInTurn members (entries.map Prod.fst) := by
  rw [SpelledInTurn, List.forall₂_map_right_iff]
  apply read.imp
  intro member entry entryReads
  exact (entryReads_ok_iff.mp entryReads).1

/-- When no tag comes twice, a card holds what its members say one by one: there is nothing
to merge, neither members nor tags. -/
theorem reads_iff_of_tagsOnce (once : TagsOnce members) {card : Card} :
    Reads id (.object members) (.ok card) ↔
      ∃ entries, EntriesRead id members entries ∧ card = ⟨id, ⟨entries⟩⟩ := by
  constructor
  · intro reads
    obtain ⟨named, spelled, _⟩ := reads.followsMembers.keys_eq
    have distinct := once.nodup_keys spelled
    cases reads with
    | @card _ merged entries tags merges read tagsMerge =>
        obtain rfl := merges.eq_of_nodup distinct
        cases read with
        | all read =>
            have distinctTags := (tagsOnce_iff_nodup (spelledInTurn_of_entriesRead read)).mp once
            obtain rfl := tagsMerge.eq_of_nodup distinctTags
            exact ⟨tags, read, rfl⟩
  · rintro ⟨entries, read, rfl⟩
    have spelled := spelledInTurn_of_entriesRead read
    exact .card (Assoc.merges_self (once.nodup_keys spelled)) (.all read)
      (Assoc.merges_self ((tagsOnce_iff_nodup spelled).mp once))

/-- The tags of a card stand in the order of the members that spell them. -/
theorem Reads.spelledInTurn (once : TagsOnce members) {card : Card}
    (reads : Reads id (.object members) (.ok card)) : SpelledInTurn members card.tags.keys := by
  obtain ⟨entries, read, rfl⟩ := (reads_iff_of_tagsOnce once).mp reads
  exact spelledInTurn_of_entriesRead read

/-- What is read as a card can be written. -/
theorem Reads.writable (once : TagsOnce members) {card : Card}
    (reads : Reads id (.object members) (.ok card)) (room : Nat) :
    (Json.object members).Writable (room + 1) := by
  obtain ⟨entries, read, _⟩ := (reads_iff_of_tagsOnce once).mp reads
  apply Json.Writable.object
  intro member present
  obtain ⟨entry, _, entryReads⟩ := exists_counterpart_right read present
  exact (entryReads_ok_iff.mp entryReads).2.writable room

/-- Members in another order make a card that answers alike. -/
theorem Reads.of_perm (once : TagsOnce members) (perm : members.Perm others) {card : Card}
    (reads : Reads id (.object members) (.ok card)) :
    ∃ other, Reads id (.object others) (.ok other) ∧ card.AnswersAlike other := by
  obtain ⟨entries, read, rfl⟩ := (reads_iff_of_tagsOnce once).mp reads
  -- Each member says the same as before, so that the entries are moved like the members.
  obtain ⟨moved, readMoved, permEntries⟩ := List.perm_comp_forall₂ perm.symm read
  refine ⟨⟨id, ⟨moved⟩⟩, (reads_iff_of_tagsOnce (once.of_perm perm)).mpr ⟨moved, readMoved, rfl⟩,
    .of_get? ?_⟩
  intro tag
  have distinct : (⟨entries⟩ : Assoc GameTag TagValue).DistinctKeys :=
    (tagsOnce_iff_nodup (spelledInTurn_of_entriesRead read)).mp once
  exact distinct.find?_of_perm permEntries.symm tag

/-- A reordered card answers like the card as it was. -/
theorem Reads.reordered {document other : String × Json} {card : Card}
    (reads : Reads document.1 document.2 (.ok card)) (reordered : Card.Reordered document other)
    (once : ∀ members, document.2 = .object members → TagsOnce members) :
    ∃ otherCard, Reads other.1 other.2 (.ok otherCard) ∧ card.id = otherCard.id ∧
      card.AnswersAlike otherCard := by
  obtain ⟨id, json⟩ := document
  obtain ⟨otherId, otherJson⟩ := other
  obtain ⟨rfl, reorderedJson⟩ := reordered
  cases reorderedJson with
  | object perm =>
      obtain ⟨otherCard, readsOther, alike⟩ := reads.of_perm (once _ rfl) perm
      exact ⟨otherCard, readsOther, reads.id_eq.trans readsOther.id_eq.symm, alike⟩
  | same => exact ⟨card, reads, rfl, .of_get? fun _ => rfl⟩

end Card

/-! ### A document -/

namespace Database

variable {text : String} {documents others : List (String × Json)} {cards otherCards : List Card}

/-- What is read of members with different ids. -/
abbrev CardsRead (documents : List (String × Json)) (cards : List Card) : Prop :=
  List.Forall₂ (fun document card => Card.Reads document.1 document.2 (.ok card)) documents cards

theorem CardsRead.ids_eq (read : CardsRead documents cards) :
    cards.map Card.id = documents.map Prod.fst :=
  Card.map_id_of_reads (.all read)

/-- When no id comes twice, a database holds the cards of the members one by one. -/
theorem parse_eq_ok_iff_of_nodup (parsed : Json.parse? text = some (.object documents))
    (distinct : (documents.map Prod.fst).Nodup) {database : Database} :
    parse text = .ok database ↔ ∃ cards, CardsRead documents cards ∧ database = holding cards := by
  rw [parse_eq_iff_reads]
  constructor
  · intro reads
    cases reads with
    | @database members merged cards accepted merges read =>
        rw [parsed] at accepted
        cases accepted
        obtain rfl := merges.eq_of_nodup distinct
        cases read with
        | all read => exact ⟨cards, read, rfl⟩
  · rintro ⟨cards, read, rfl⟩
    exact .database parsed (Assoc.merges_self distinct) (.all read)

/-- Cards that answer alike one by one. -/
abbrev CardsAlike (cards otherCards : List Card) : Prop :=
  List.Forall₂ (fun card other => card.id = other.id ∧ card.AnswersAlike other) cards otherCards

/-- Cards whose tags are reordered answer alike one by one. -/
theorem CardsRead.reordered_within (read : CardsRead documents cards)
    (within : List.Forall₂ Card.Reordered documents others)
    (tagsOnce : ∀ document ∈ documents, ∀ members,
      document.2 = .object members → Card.TagsOnce members) :
    ∃ otherCards, CardsRead others otherCards ∧ CardsAlike cards otherCards := by
  induction within generalizing cards with
  | nil =>
      cases read
      exact ⟨[], .nil, .nil⟩
  | @cons document other rest restOthers head _ inductionHypothesis =>
      cases read with
      | cons reads readRest =>
          obtain ⟨otherCard, readsOther, alike⟩ :=
            reads.reordered head (tagsOnce document List.mem_cons_self)
          obtain ⟨otherCards, readOthers, alikeRest⟩ := inductionHypothesis readRest
            fun later present => tagsOnce later (List.mem_cons_of_mem _ present)
          exact ⟨otherCard :: otherCards, .cons readsOther readOthers, .cons alike alikeRest⟩

/-- A reordered document is read as cards that answer alike, each in its new place. -/
theorem CardsRead.reordered (read : CardsRead documents cards)
    (reordered : Reordered documents others) (independent : Independent documents) :
    ∃ moved otherCards, cards.Perm moved ∧ CardsRead others otherCards ∧
      CardsAlike moved otherCards := by
  obtain ⟨movedDocuments, perm, within⟩ := reordered
  obtain ⟨moved, readMoved, permCards⟩ := List.perm_comp_forall₂ perm.symm read
  obtain ⟨otherCards, readOthers, alike⟩ := CardsRead.reordered_within readMoved within
    fun document present => independent.tagsOnce document (perm.mem_iff.mpr present)
  exact ⟨moved, otherCards, permCards.symm, readOthers, alike⟩

/-! ### What is found in a database -/

/-- Cards that are held in another order are found just the same. -/
theorem find?_holding_of_perm (distinct : (cards.map Card.id).Nodup)
    (perm : cards.Perm otherCards) (id : String) :
    (holding cards).find? id = (holding otherCards).find? id := by
  have indexed := indexed_holding distinct
  have otherIndexed := indexed_holding ((perm.map Card.id).nodup_iff.mp distinct)
  rw [indexed.find?_eq_byId, otherIndexed.find?_eq_byId]
  apply indexed.distinctKeys_byId.find?_of_perm
  exact perm.map fun card => (card.id, card)

/-- A scan of cards that answer alike one by one finds cards that answer alike. -/
theorem CardsAlike.find? (alike : CardsAlike cards otherCards) (id : String) :
    Option.Rel Card.AnswersAlike (cards.find? fun card => card.id == id)
      (otherCards.find? fun card => card.id == id) := by
  induction alike with
  | nil => exact .none
  | @cons card other rest others head _ inductionHypothesis =>
      obtain ⟨sameId, sameAnswers⟩ := head
      by_cases wanted : card.id = id
      · have otherWanted : other.id = id := sameId.symm.trans wanted
        simp only [List.find?_cons, wanted, otherWanted, beq_self_eq_true]
        exact .some sameAnswers
      · have otherUnwanted : other.id ≠ id := fun same => wanted (sameId.trans same)
        rw [List.find?_cons_of_neg (by simpa using wanted),
          List.find?_cons_of_neg (by simpa using otherUnwanted)]
        exact inductionHypothesis

theorem CardsAlike.ids_eq (alike : CardsAlike cards otherCards) :
    cards.map Card.id = otherCards.map Card.id :=
  map_eq_map_of_forall₂ (alike.imp fun _ _ sameCard => sameCard.1)

/-- The databases of cards that answer alike, in any order, answer alike. -/
theorem holding_answersAlike {moved : List Card} (distinct : (cards.map Card.id).Nodup)
    (perm : cards.Perm moved) (alike : CardsAlike moved otherCards) :
    (holding cards).AnswersAlike (holding otherCards) := by
  have permIds : (cards.map Card.id).Perm (otherCards.map Card.id) :=
    alike.ids_eq ▸ perm.map Card.id
  have movedDistinct : (moved.map Card.id).Nodup := (perm.map Card.id).nodup_iff.mp distinct
  have otherDistinct : (otherCards.map Card.id).Nodup := permIds.nodup_iff.mp distinct
  constructor
  · exact permIds
  · intro id
    rw [find?_holding_of_perm distinct perm, (indexed_holding movedDistinct).find?_eq_scan,
      (indexed_holding otherDistinct).find?_eq_scan]
    exact alike.find? id

/-- The cards of a document, and the tags of each of them, stand as they are written. -/
theorem CardsRead.listedAs (read : CardsRead documents cards)
    (independent : Independent documents) : (holding cards).ListedAs documents := by
  apply ((List.forall₂_and_left _ _).mpr ⟨independent.tagsOnce, read⟩).imp
  rintro ⟨id, json⟩ card ⟨once, reads⟩
  obtain ⟨members, documentEq, _⟩ := reads.exists_members
  cases documentEq
  exact ⟨members, rfl, reads.spelledInTurn (once members rfl)⟩

/-- What is read as cards can be written. -/
theorem CardsRead.exists_text (read : CardsRead documents cards)
    (independent : Independent documents) :
    ∃ text, Json.parse? text = some (.object documents) := by
  have writable : (Json.object documents).Writable maxDepth := by
    apply Json.Writable.object
    rintro ⟨id, json⟩ present
    obtain ⟨card, _, reads⟩ := exists_counterpart_right read present
    obtain ⟨members, documentEq, _⟩ := reads.exists_members
    cases documentEq
    exact reads.writable (independent.tagsOnce _ present members rfl) (maxDepth - 2)
  exact ⟨Json.written .compact (.object documents), Json.parse?_written writable .compact⟩

/-- A document that is accepted is accepted in any order of its members, and answers alike. -/
theorem exists_parse_reordered {other : String}
    (parsed : Json.parse? text = some (.object documents))
    (parsedOther : Json.parse? other = some (.object others))
    (independent : Independent documents) (reordered : Reordered documents others)
    {database : Database} (accepted : parse text = .ok database) :
    ∃ otherDatabase, parse other = .ok otherDatabase ∧ database.AnswersAlike otherDatabase ∧
      otherDatabase.ListedAs others := by
  have independentOther := independent.reordered reordered
  obtain ⟨cards, read, rfl⟩ := (parse_eq_ok_iff_of_nodup parsed independent.ids_nodup).mp accepted
  obtain ⟨moved, otherCards, perm, readOthers, alike⟩ := read.reordered reordered independent
  refine ⟨holding otherCards, ?_, ?_, readOthers.listedAs independentOther⟩
  · apply (parse_eq_ok_iff_of_nodup parsedOther independentOther.ids_nodup).mpr
    exact ⟨otherCards, readOthers, rfl⟩
  · exact holding_answersAlike (read.ids_eq ▸ independent.ids_nodup) perm alike

/-- A document that is accepted can be written with its members in any order. -/
theorem exists_text_reordered (parsed : Json.parse? text = some (.object documents))
    (independent : Independent documents) (reordered : Reordered documents others)
    {database : Database} (accepted : parse text = .ok database) :
    ∃ other, Json.parse? other = some (.object others) := by
  obtain ⟨cards, read, rfl⟩ := (parse_eq_ok_iff_of_nodup parsed independent.ids_nodup).mp accepted
  obtain ⟨_, otherCards, _, readOthers, _⟩ := read.reordered reordered independent
  exact readOthers.exists_text (independent.reordered reordered)

/-- The order of members that do not bear on each other, of cards in a document and of tags in
a card, does not matter to what is looked up: the document is accepted in one order exactly
when it is in the other, the ids are the same, and whatever is looked up under them is the same.
Only the order in which cards and tags come up is that of the document. -/
theorem parse_reordered {other : String}
    (parsed : Json.parse? text = some (.object documents))
    (parsedOther : Json.parse? other = some (.object others))
    (independent : Independent documents) (reordered : Reordered documents others) :
    ((∃ database, parse text = .ok database) ↔ ∃ database, parse other = .ok database) ∧
      ∀ first second, parse text = .ok first → parse other = .ok second →
        first.AnswersAlike second ∧ second.ListedAs others := by
  refine ⟨⟨?_, ?_⟩, ?_⟩
  · rintro ⟨database, accepted⟩
    obtain ⟨otherDatabase, acceptedOther, _⟩ :=
      exists_parse_reordered parsed parsedOther independent reordered accepted
    exact ⟨otherDatabase, acceptedOther⟩
  · rintro ⟨database, accepted⟩
    obtain ⟨otherDatabase, acceptedOther, _⟩ := exists_parse_reordered parsedOther parsed
      (independent.reordered reordered) reordered.symm accepted
    exact ⟨otherDatabase, acceptedOther⟩
  · intro first second accepted acceptedOther
    obtain ⟨otherDatabase, acceptedAgain, answersAlike, listed⟩ :=
      exists_parse_reordered parsed parsedOther independent reordered accepted
    rw [acceptedOther] at acceptedAgain
    cases acceptedAgain
    exact ⟨answersAlike, listed⟩

/-- Two cards, one with two tags. -/
def twoCards : String :=
  "\x7b\"A\": \x7b\"power\": 1, \"Name\": \"x\"\x7d, \"B\": \x7b\"POWER\": true\x7d\x7d"

/-- The same cards the other way round, and the tags as well. -/
def twoCardsReordered : String :=
  "\x7b\"B\": \x7b\"POWER\": true\x7d, \"A\": \x7b\"Name\": \"x\", \"power\": 1\x7d\x7d"

/-- The members of `twoCards`. -/
def twoCardsMembers : List (String × Json) :=
  [("A", .object [("power", .integer 1), ("Name", .string "x")]),
    ("B", .object [("POWER", .bool true)])]

/-- The members of `twoCardsReordered`. -/
def twoCardsReorderedMembers : List (String × Json) :=
  [("B", .object [("POWER", .bool true)]),
    ("A", .object [("Name", .string "x"), ("power", .integer 1)])]

theorem parse?_twoCards : Json.parse? twoCards = some (.object twoCardsMembers) :=
  rfl

theorem parse?_twoCardsReordered :
    Json.parse? twoCardsReordered = some (.object twoCardsReorderedMembers) :=
  rfl

theorem twoCards_accepted : ∃ database, parse twoCards = .ok database := by
  rw [parse, parse?_twoCards]
  exact ⟨_, rfl⟩

theorem twoCards_independent : Independent twoCardsMembers := by
  have onceFirst : Card.TagsOnce [("power", .integer 1), ("Name", .string "x")] := by
    have spelled : Card.SpelledInTurn [("power", .integer 1), ("Name", .string "x")]
        [.power, .name] := .cons (by decide) (.cons (by decide) .nil)
    exact (Card.tagsOnce_iff_nodup spelled).mpr (by decide)
  have onceSecond : Card.TagsOnce [("POWER", .bool true)] := List.pairwise_singleton _ _
  refine ⟨by decide, ?_⟩
  simp only [twoCardsMembers, List.forall_mem_cons]
  refine ⟨?_, ?_, by simp⟩
  · rintro _ ⟨⟩
    exact onceFirst
  · rintro _ ⟨⟩
    exact onceSecond

theorem twoCards_reordered : Reordered twoCardsMembers twoCardsReorderedMembers :=
  ⟨_, .swap _ _ _, .cons ⟨rfl, .same⟩ (.cons ⟨rfl, .object (.swap _ _ _)⟩ .nil)⟩

theorem twoCards_parse_reordered :
    Json.parse? twoCards = some (.object twoCardsMembers) ∧
      Json.parse? twoCardsReordered = some (.object twoCardsReorderedMembers) ∧
      Independent twoCardsMembers ∧ Reordered twoCardsMembers twoCardsReorderedMembers ∧
      (∃ database, parse twoCards = .ok database) ∧
      ((∃ database, parse twoCards = .ok database) ↔
        ∃ database, parse twoCardsReordered = .ok database) ∧
      ∀ first second, parse twoCards = .ok first → parse twoCardsReordered = .ok second →
        first.AnswersAlike second ∧ second.ListedAs twoCardsReorderedMembers :=
  ⟨parse?_twoCards, parse?_twoCardsReordered, twoCards_independent, twoCards_reordered,
    twoCards_accepted, parse_reordered parse?_twoCards parse?_twoCardsReordered
      twoCards_independent twoCards_reordered⟩

end Database

end CardCodex
