/-
Module: CardCodex.Proofs.Reading
Purpose: What a card document means, said without the reader: the value or the fault of
  each tag entry, the first fault in document order, and the cards of a document that has
  none.  The reader gives exactly that meaning to every text.
Main exports: TagValue.Reads, Card.EntryReads, ReadsInOrder, Card.Reads, Database.Reads,
  Card.ofMembers_eq, Database.ofJson_object, Database.reads_parse, Database.parse_eq_iff_reads,
  Database.documentIds, Database.ids_of_parse
-/
import CardCodex.Card.Document
import CardCodex.Proofs.Lookup
import CardCodex.Proofs.Numerals
import CardCodex.Proofs.Slots

namespace CardCodex

/-! ### The meaning of a tag entry -/

/-- What JSON says as the value of a tag: a value, or why it is none. -/
inductive TagValue.Reads (tag : GameTag) : Json → Except TagFault TagValue → Prop where
  | text {content : String} (isText : tag.kind = .scalar .string) :
      Reads tag (.string content) (.ok (.text content))
  | noText {json : Json} (isText : tag.kind = .scalar .string)
      (shape : json.shape ≠ .string) :
      Reads tag json (.error (.wrongShape .string json.shape))
  | itemOfName {id : EnumId} {name : String} (item : id.Item) (isItem : tag.kind = .item id)
      (named : Enumeration.itemName item = upperCase name) :
      Reads tag (.string name) (.ok (.item id (Enumeration.value item)))
  | unknownName {id : EnumId} {name : String} (isItem : tag.kind = .item id)
      (unknown : ∀ item : id.Item, Enumeration.itemName item ≠ upperCase name) :
      Reads tag (.string name) (.error (.invalidItem (.unknownName id.name name)))
  | itemOfValue {id : EnumId} {number : Int} (item : id.Item) (isItem : tag.kind = .item id)
      (denoted : (Enumeration.value item).toInt = number) :
      Reads tag (.integer number) (.ok (.item id (Enumeration.value item)))
  | unknownValue {id : EnumId} {number : Int} {value : Int32} (isItem : tag.kind = .item id)
      (denoted : value.toInt = number)
      (undeclared : ∀ item : id.Item, Enumeration.value item ≠ value) :
      Reads tag (.integer number) (.error (.invalidItem (.unknownValue id.name value)))
  | noItem {id : EnumId} {json : Json} (isItem : tag.kind = .item id)
      (shape : json.shape ≠ .string ∧ json.shape ≠ .integer ∧ json.shape ≠ .float) :
      Reads tag json (.error (.wrongShape .enum json.shape))
  | truth {category : Category} {truth : Bool} (isNumber : tag.kind = .scalar category)
      (notText : category ≠ .string) :
      Reads tag (.bool truth) (.ok (.int (if truth then 1 else 0)))
  | number {category : Category} {number : Int} {value : Int32}
      (isNumber : tag.kind = .scalar category) (notText : category ≠ .string)
      (denoted : value.toInt = number) :
      Reads tag (.integer number) (.ok (.int value))
  | noNumber {category : Category} {json : Json} (isNumber : tag.kind = .scalar category)
      (notText : category ≠ .string)
      (shape : json.shape ≠ .boolean ∧ json.shape ≠ .integer ∧ json.shape ≠ .float) :
      Reads tag json (.error (.wrongShape category json.shape))
  | outOfRange {number : Int} (notText : tag.kind ≠ .scalar .string)
      (range : number < -2147483648 ∨ 2147483647 < number) :
      Reads tag (.integer number) (.error (.outOfRange number))
  | float {literal : String} (notText : tag.kind ≠ .scalar .string) :
      Reads tag (.float literal) (.error (.wrongShape .number .float))

/-- What a member of a card says: a tag and its value, or why it says neither. -/
inductive Card.EntryReads (id : String) :
    String × Json → Except CardError (GameTag × TagValue) → Prop where
  | entry {key : String} {json : Json} {tag : GameTag} {value : TagValue}
      (named : Enumeration.itemName tag = upperCase key)
      (reads : TagValue.Reads tag json (.ok value)) :
      EntryReads id (key, json) (.ok (tag, value))
  | unknownTag {key : String} {json : Json}
      (unknown : ∀ tag : GameTag, Enumeration.itemName tag ≠ upperCase key) :
      EntryReads id (key, json) (.error (.unknownTag id key (.unknownName "GameTag" key)))
  | unfit {key : String} {json : Json} {tag : GameTag} {fault : TagFault}
      (named : Enumeration.itemName tag = upperCase key)
      (reads : TagValue.Reads tag json (.error fault)) :
      EntryReads id (key, json) (.error (.unfit id tag fault))

/-! ### The meaning of a document -/

/-- The members of a list read one after the other: what all of them say, or the
fault of the first one that has a fault. -/
inductive ReadsInOrder {A B F : Type} (Reads : A → Except F B → Prop) (members : List A) :
    Except F (List B) → Prop where
  | all {results : List B}
      (read : List.Forall₂ (fun member result => Reads member (.ok result)) members results) :
      ReadsInOrder Reads members (.ok results)
  | firstFault (before after : List A) {member : A} {fault : F}
      (split : members = before ++ member :: after)
      (readBefore : ∀ earlier ∈ before, ∃ result, Reads earlier (.ok result))
      (faulty : Reads member (.error fault)) :
      ReadsInOrder Reads members (.error fault)

/-- What the member of a document with key `id` says: a card, or its first fault.
A tag that several keys spell stands in the place of the first of them and has
the value of the last. -/
inductive Card.Reads (id : String) : Json → Except CardError Card → Prop where
  | card {members merged : List (String × Json)} {entries tags : List (GameTag × TagValue)}
      (merges : Assoc.Merges members merged)
      (read : ReadsInOrder (EntryReads id) merged (.ok entries))
      (tagsMerge : Assoc.Merges entries tags) :
      Reads id (.object members) (.ok ⟨id, ⟨tags⟩⟩)
  | fault {members merged : List (String × Json)} {fault : CardError}
      (merges : Assoc.Merges members merged)
      (read : ReadsInOrder (EntryReads id) merged (.error fault)) :
      Reads id (.object members) (.error fault)
  | notAnObject {json : Json} (shape : json.shape ≠ .object) :
      Reads id json (.error (.cardNotAnObject id))

/-- What a text says as a card document: the first fault that stands in it, or the cards of
its merged members, each with a slot under its id. -/
inductive Database.Reads (text : String) : Except CardError Database → Prop where
  | malformed (refused : Json.parse? text = none) : Reads text (.error .malformed)
  | notAnObject {json : Json} (accepted : Json.parse? text = some json)
      (shape : json.shape ≠ .object) : Reads text (.error .notAnObject)
  | fault {members merged : List (String × Json)} {fault : CardError}
      (accepted : Json.parse? text = some (.object members))
      (merges : Assoc.Merges members merged)
      (read : ReadsInOrder (fun member => Card.Reads member.1 member.2) merged (.error fault)) :
      Reads text (.error fault)
  | database {members merged : List (String × Json)} {cards : List Card}
      (accepted : Json.parse? text = some (.object members))
      (merges : Assoc.Merges members merged)
      (read : ReadsInOrder (fun member => Card.Reads member.1 member.2) merged (.ok cards)) :
      Reads text (.ok (holding cards))

/-! ### The reader, one tag entry at a time -/

namespace TagValue

/-- The value that a tag holds when a document offers `json` for it. -/
def ofOffer (tag : GameTag) (json : Json) : Except TagFault TagValue :=
  (ofJson tag json).bind (fit tag)

theorem readWord_eq_ok {number : Int} {word : Int32} (denoted : word.toInt = number) :
    readWord number = .ok word := by
  rw [readWord, word?_eq_some_iff.mpr denoted]

theorem readWord_eq_error {number : Int} (range : number < -2147483648 ∨ 2147483647 < number) :
    readWord number = .error (.outOfRange number) := by
  rw [readWord, word?_eq_none_iff.mpr range]

theorem ofOffer_of_reads {tag : GameTag} {json : Json} {result : Except TagFault TagValue}
    (reads : Reads tag json result) : ofOffer tag json = result := by
  cases reads with
  | text isText => simp [ofOffer, ofJson, isText, readText, fit, Except.bind]
  | noText isText shape =>
      cases json <;> simp_all [ofOffer, ofJson, readText, Except.bind, Json.shape]
  | itemOfName item isItem named =>
      have found := EnumId.valueOf_eq_ok_iff.mpr ⟨item, named, rfl⟩
      simp [ofOffer, ofJson, isItem, readItem, found, fit, declaredItem, Except.bind]
  | unknownName isItem unknown =>
      have missing := EnumId.valueOf_eq_error_iff.mpr ⟨unknown, rfl⟩
      simp [ofOffer, ofJson, isItem, readItem, missing, Except.bind]
  | itemOfValue item isItem denoted =>
      simp [ofOffer, ofJson, isItem, readItem, readWord_eq_ok denoted, fit, declaredItem,
        Except.bind, Except.map]
  | unknownValue isItem denoted undeclared =>
      have missing := EnumId.nameOf_eq_error_iff.mpr ⟨undeclared, rfl⟩
      simp [ofOffer, ofJson, isItem, readItem, readWord_eq_ok denoted, fit, declaredItem,
        missing, Except.bind, Except.map]
  | noItem isItem shape =>
      cases json <;> simp_all [ofOffer, ofJson, readItem, Except.bind, Json.shape]
  | truth isNumber notText =>
      simp [ofOffer, ofJson, isNumber, notText, readNumber, fit, Except.bind]
  | number isNumber notText denoted =>
      simp [ofOffer, ofJson, isNumber, notText, readNumber, readWord_eq_ok denoted, fit,
        Except.bind, Except.map]
  | noNumber isNumber notText shape =>
      cases json <;> simp_all [ofOffer, ofJson, readNumber, Except.bind, Json.shape]
  | outOfRange notText range =>
      cases kind : tag.kind <;>
        simp_all [ofOffer, ofJson, readNumber, readItem, readWord_eq_error range, Except.bind,
          Except.map]
  | float notText =>
      cases kind : tag.kind <;>
        simp_all [ofOffer, ofJson, readNumber, readItem, Except.bind]

theorem exists_reads_item {tag : GameTag} {id : EnumId} (isItem : tag.kind = .item id)
    (json : Json) : ∃ result, Reads tag json result := by
  have notText : tag.kind ≠ .scalar .string := by simp [isItem]
  cases json with
  | string name =>
      by_cases known : ∃ item : id.Item, Enumeration.itemName item = upperCase name
      · rcases known with ⟨item, named⟩
        exact ⟨_, .itemOfName item isItem named⟩
      · exact ⟨_, .unknownName isItem fun item named => known ⟨item, named⟩⟩
  | integer number =>
      cases found : word? number with
      | none => exact ⟨_, .outOfRange notText (word?_eq_none_iff.mp found)⟩
      | some value =>
          have denoted := word?_eq_some_iff.mp found
          by_cases declared : ∃ item : id.Item, Enumeration.value item = value
          · rcases declared with ⟨item, rfl⟩
            exact ⟨_, .itemOfValue item isItem denoted⟩
          · exact ⟨_, .unknownValue isItem denoted fun item same => declared ⟨item, same⟩⟩
  | float literal => exact ⟨_, .float notText⟩
  | null => exact ⟨_, .noItem isItem (by simp [Json.shape])⟩
  | bool truth => exact ⟨_, .noItem isItem (by simp [Json.shape])⟩
  | array elements => exact ⟨_, .noItem isItem (by simp [Json.shape])⟩
  | object members => exact ⟨_, .noItem isItem (by simp [Json.shape])⟩

theorem exists_reads_number {tag : GameTag} {category : Category}
    (isNumber : tag.kind = .scalar category) (notText : category ≠ .string) (json : Json) :
    ∃ result, Reads tag json result := by
  have noText : tag.kind ≠ .scalar .string := by simp [isNumber, notText]
  cases json with
  | bool truth => exact ⟨_, .truth isNumber notText⟩
  | integer number =>
      cases found : word? number with
      | none => exact ⟨_, .outOfRange noText (word?_eq_none_iff.mp found)⟩
      | some value => exact ⟨_, .number isNumber notText (word?_eq_some_iff.mp found)⟩
  | float literal => exact ⟨_, .float noText⟩
  | null => exact ⟨_, .noNumber isNumber notText (by simp [Json.shape])⟩
  | string content => exact ⟨_, .noNumber isNumber notText (by simp [Json.shape])⟩
  | array elements => exact ⟨_, .noNumber isNumber notText (by simp [Json.shape])⟩
  | object members => exact ⟨_, .noNumber isNumber notText (by simp [Json.shape])⟩

/-- Whatever a document offers for a tag has a meaning. -/
theorem exists_reads (tag : GameTag) (json : Json) : ∃ result, Reads tag json result := by
  cases kind : tag.kind with
  | item id => exact exists_reads_item kind json
  | scalar category =>
      by_cases isText : category = .string
      · subst isText
        by_cases shape : json.shape = .string
        · cases json with
          | string content => exact ⟨_, .text kind⟩
          | _ => cases shape
        · exact ⟨_, .noText kind shape⟩
      · exact exists_reads_number kind isText json

/-- A tag takes from a document what the document says for it. -/
theorem reads_iff {tag : GameTag} {json : Json} {result : Except TagFault TagValue} :
    Reads tag json result ↔ ofOffer tag json = result := by
  constructor
  · exact ofOffer_of_reads
  · rintro rfl
    rcases exists_reads tag json with ⟨result, reads⟩
    rwa [ofOffer_of_reads reads]

end TagValue

namespace Card

/-- What the member of a card with key `key` holds, for the card `id`. -/
def readEntry (id : String) (member : String × Json) :
    Except CardError (GameTag × TagValue) :=
  match Enumeration.parse GameTag member.1 with
  | .error cause => .error (.unknownTag id member.1 cause)
  | .ok tag =>
      match TagValue.ofOffer tag member.2 with
      | .error fault => .error (.unfit id tag fault)
      | .ok value => .ok (tag, value)

/-- The card with one more value held. -/
def withEntry (card : Card) (entry : GameTag × TagValue) : Card :=
  { card with tags := card.tags.insert entry.1 entry.2 }

/-- A member of a card is read on its own and then held. -/
theorem readTag_eq (card : Card) (key : String) (json : Json) :
    card.readTag key json = (readEntry card.id (key, json)).map card.withEntry := by
  unfold readTag readEntry
  cases Enumeration.parse GameTag key with
  | error cause => rfl
  | ok tag =>
      dsimp only
      rw [TagValue.ofOffer]
      cases TagValue.ofJson tag json with
      | error fault => rfl
      | ok offered =>
          cases fitted : TagValue.fit tag offered <;>
            simp [set_eq, fitted, withEntry, Except.bind, Except.map]

theorem entryReads_iff {id : String} {member : String × Json}
    {result : Except CardError (GameTag × TagValue)} :
    EntryReads id member result ↔ readEntry id member = result := by
  rcases member with ⟨key, json⟩
  constructor
  · intro reads
    cases reads with
    | entry named reads =>
        rw [readEntry, Enumeration.parse_eq_ok_iff.mpr named]
        dsimp only
        rw [TagValue.reads_iff.mp reads]
    | unknownTag unknown =>
        rw [readEntry, Enumeration.parse_eq_error_iff.mpr ⟨unknown, rfl⟩]
        rfl
    | unfit named reads =>
        rw [readEntry, Enumeration.parse_eq_ok_iff.mpr named]
        dsimp only
        rw [TagValue.reads_iff.mp reads]
  · rintro rfl
    unfold readEntry
    cases parsed : Enumeration.parse GameTag key with
    | error cause =>
        rcases Enumeration.parse_eq_error_iff.mp parsed with ⟨unknown, rfl⟩
        exact .unknownTag unknown
    | ok tag =>
        have named := Enumeration.parse_eq_ok_iff.mp parsed
        dsimp only
        cases offered : TagValue.ofOffer tag json with
        | error fault => exact .unfit named (TagValue.reads_iff.mpr offered)
        | ok value => exact .entry named (TagValue.reads_iff.mpr offered)

end Card

/-! ### The reader, one list of members at a time -/

section InOrder

variable {A B F : Type} {Reads : A → Except F B → Prop} {read : A → Except F B}

theorem mapM_cons_of_error {first : A} {rest : List A} {fault : F}
    (faulty : read first = .error fault) : (first :: rest).mapM read = .error fault := by
  rw [List.mapM_cons, faulty]
  rfl

theorem mapM_cons_of_ok {first : A} {rest : List A} {result : B}
    (accepted : read first = .ok result) :
    (first :: rest).mapM read = (rest.mapM read).map (result :: ·) := by
  rw [List.mapM_cons, accepted]
  cases rest.mapM read <;> rfl

theorem readsInOrder_mapM (agree : ∀ member result, Reads member result ↔ read member = result)
    (members : List A) : ReadsInOrder Reads members (members.mapM read) := by
  induction members with
  | nil => exact .all .nil
  | cons first rest inductionHypothesis =>
      cases head : read first with
      | error fault =>
          rw [mapM_cons_of_error head]
          exact .firstFault [] rest rfl (by simp) ((agree _ _).mpr head)
      | ok result =>
          rw [mapM_cons_of_ok head]
          generalize rest.mapM read = outcome at inductionHypothesis
          cases inductionHypothesis with
          | all readRest => exact .all (.cons ((agree _ _).mpr head) readRest)
          | firstFault before after split readBefore faulty =>
              refine .firstFault (first :: before) after (by simp [split]) ?_ faulty
              intro earlier earlierMember
              rcases List.mem_cons.mp earlierMember with rfl | there
              · exact ⟨result, (agree _ _).mpr head⟩
              · exact readBefore earlier there

/-- Members are read in order by reading them one after the other up to the first
fault. -/
theorem readsInOrder_iff (agree : ∀ member result, Reads member result ↔ read member = result)
    {members : List A} {result : Except F (List B)} :
    ReadsInOrder Reads members result ↔ members.mapM read = result := by
  constructor
  · intro reads
    cases reads with
    | all readAll =>
        induction readAll with
        | nil => rfl
        | cons head _ inductionHypothesis =>
            rw [mapM_cons_of_ok ((agree _ _).mp head), inductionHypothesis]
            rfl
    | firstFault before after split readBefore faulty =>
        subst split
        induction before with
        | nil => exact mapM_cons_of_error ((agree _ _).mp faulty)
        | cons first before inductionHypothesis =>
            obtain ⟨result, head⟩ := readBefore first List.mem_cons_self
            rw [List.cons_append, mapM_cons_of_ok ((agree _ _).mp head),
              inductionHypothesis fun earlier member =>
                readBefore earlier (List.mem_cons_of_mem _ member)]
            rfl
  · rintro rfl
    exact readsInOrder_mapM agree members

/-- Each member of the first of two lists that are related member by member has its
counterpart in the second. -/
theorem exists_counterpart_right {Related : A → B → Prop} {members : List A} {results : List B}
    (related : List.Forall₂ Related members results) {source : A} (member : source ∈ members) :
    ∃ result ∈ results, Related source result := by
  induction related with
  | nil => cases member
  | cons head _ inductionHypothesis =>
      rcases List.mem_cons.mp member with rfl | there
      · exact ⟨_, List.mem_cons_self, head⟩
      · rcases inductionHypothesis there with ⟨result, resultMember, other⟩
        exact ⟨result, List.mem_cons_of_mem _ resultMember, other⟩

theorem exists_counterpart_left {Related : A → B → Prop} {members : List A} {results : List B}
    (related : List.Forall₂ Related members results) {result : B} (member : result ∈ results) :
    ∃ source ∈ members, Related source result := by
  have flipped : List.Forall₂ (flip Related) results members := related.flip
  exact exists_counterpart_right flipped member

/-- What members say comes from one of them each. -/
theorem ReadsInOrder.exists_of_mem {members : List A} {results : List B}
    (reads : ReadsInOrder Reads members (.ok results)) {result : B} (member : result ∈ results) :
    ∃ source ∈ members, Reads source (.ok result) := by
  cases reads with
  | all readAll => exact exists_counterpart_left readAll member

/-- A fold that reads each member on its own reads all of them and then takes in
what they say. -/
theorem foldlM_eq_map_foldl {S : Type} (step : S → A → Except F S) (read : A → Except F B)
    (takeIn : S → B → S) (Keeps : S → Prop)
    (stepEq : ∀ state, Keeps state → ∀ member,
      step state member = (read member).map (takeIn state))
    (kept : ∀ state, Keeps state → ∀ result, Keeps (takeIn state result))
    (members : List A) (state : S) (keeps : Keeps state) :
    members.foldlM step state = (members.mapM read).map (List.foldl takeIn state) := by
  induction members generalizing state with
  | nil => rfl
  | cons first rest inductionHypothesis =>
      rw [List.foldlM_cons, stepEq state keeps]
      cases head : read first with
      | error fault =>
          rw [mapM_cons_of_error head]
          rfl
      | ok result =>
          rw [mapM_cons_of_ok head]
          refine (inductionHypothesis _ (kept state keeps result)).trans ?_
          cases rest.mapM read <;> rfl

end InOrder

namespace Card

theorem foldl_withEntry (entries : List (GameTag × TagValue)) (card : Card) :
    entries.foldl withEntry card = { card with tags := card.tags.insertAll entries } := by
  induction entries generalizing card with
  | nil => rfl
  | cons entry rest inductionHypothesis => exact inductionHypothesis (card.withEntry entry)

/-- The card of a list of members: each member is read on its own, and what they say
is merged. -/
theorem ofMembers_eq (id : String) (members : List (String × Json)) :
    ofMembers id members =
      (members.mapM (readEntry id)).map fun entries => ⟨id, .ofList entries⟩ := by
  have folded :=
    foldlM_eq_map_foldl (fun card member => card.readTag member.1 member.2) (readEntry id)
      withEntry (fun card => card.id = id)
      (fun card sameId member => sameId ▸ readTag_eq card member.1 member.2)
      (fun card sameId entry => sameId) members (blank id) rfl
  have taken : (fun entries => List.foldl withEntry (blank id) entries) =
      fun entries => ⟨id, .ofList entries⟩ :=
    funext fun entries => foldl_withEntry entries (blank id)
  rw [← taken]
  exact folded

/-- A member of a document is read as it says. -/
theorem reads_iff {id : String} {json : Json} {result : Except CardError Card} :
    Reads id json result ↔ ofJson id json = result := by
  have inOrder := @readsInOrder_iff _ _ _ _ _ (@entryReads_iff id)
  constructor
  · intro reads
    cases reads with
    | card merges read tagsMerge =>
        rw [ofJson, ofMembers_eq, ← merges.entries_eq, inOrder.mp read,
          tagsMerge.entries_eq]
        rfl
    | fault merges read =>
        rw [ofJson, ofMembers_eq, ← merges.entries_eq, inOrder.mp read]
        rfl
    | notAnObject shape =>
        cases json with
        | object members => exact absurd rfl shape
        | _ => rfl
  · rintro rfl
    cases json with
    | object members =>
        rw [ofJson, ofMembers_eq]
        cases outcome : (Assoc.ofList members).entries.mapM (readEntry id) with
        | error fault => exact .fault (Assoc.merges_ofList members) (inOrder.mpr outcome)
        | ok entries =>
            exact .card (Assoc.merges_ofList members) (inOrder.mpr outcome)
              (Assoc.merges_ofList entries)
    | _ => exact .notAnObject (by simp [Json.shape])

theorem Reads.id_eq {id : String} {json : Json} {card : Card}
    (reads : Reads id json (.ok card)) : card.id = id := by
  cases reads
  rfl

/-- The cards that are read one after the other have the keys of their members as ids. -/
theorem map_id_of_reads {members : List (String × Json)} {cards : List Card}
    (read : ReadsInOrder (fun member => Reads member.1 member.2) members (.ok cards)) :
    cards.map Card.id = members.map Prod.fst := by
  cases read with
  | all readAll =>
      induction readAll with
      | nil => rfl
      | cons head _ inductionHypothesis =>
          rw [List.map_cons, List.map_cons, head.id_eq, inductionHypothesis]

/-- The cards that are read of merged members have different ids. -/
theorem nodup_ids_of_reads {members merged : List (String × Json)} {cards : List Card}
    (merges : Assoc.Merges members merged)
    (read : ReadsInOrder (fun member => Reads member.1 member.2) merged (.ok cards)) :
    (cards.map Card.id).Nodup := by
  rw [map_id_of_reads read]
  exact merges.nodup_keys

end Card

namespace Database

/-- The database of a list of members: each card is read on its own, and all of them
are inserted. -/
theorem ofMembers_eq (members : List (String × Json)) :
    ofMembers members = (members.mapM fun member => Card.ofJson member.1 member.2).map ofCards :=
  foldlM_eq_map_foldl
    (fun (database : Database) (member : String × Json) => database.readCard member.1 member.2)
    (fun member => Card.ofJson member.1 member.2) insert (fun _ => True) (fun _ _ _ => rfl)
    (fun _ _ _ => trivial) members empty trivial

private theorem readsInOrder_cards {members : List (String × Json)}
    {result : Except CardError (List Card)} :
    ReadsInOrder (fun member => Card.Reads member.1 member.2) members result ↔
      members.mapM (fun member => Card.ofJson member.1 member.2) = result :=
  readsInOrder_iff fun member _ => @Card.reads_iff member.1 member.2 _

/-- The database of an object: each merged member is read on its own, and the cards, no two
of which share an id, are held just as they stand. -/
theorem ofJson_object (members : List (String × Json)) :
    ofJson (.object members) =
      ((Assoc.ofList members).entries.mapM fun member => Card.ofJson member.1 member.2).map
        holding := by
  rw [ofJson, ofMembers_eq]
  cases outcome :
      (Assoc.ofList members).entries.mapM fun member => Card.ofJson member.1 member.2 with
  | error fault => rfl
  | ok cards =>
      have read := readsInOrder_cards.mpr outcome
      have distinct := Card.nodup_ids_of_reads (Assoc.merges_ofList members) read
      rw [Except.map, Except.map, ofCards_eq_holding distinct]

/-- What the reader answers is what the text says. -/
theorem reads_parse (text : String) : Reads text (parse text) := by
  unfold parse
  cases accepted : Json.parse? text with
  | none => exact .malformed accepted
  | some json =>
      dsimp only
      cases json with
      | object members =>
          rw [ofJson_object]
          cases outcome :
              (Assoc.ofList members).entries.mapM fun member => Card.ofJson member.1 member.2 with
          | error fault =>
              exact .fault accepted (Assoc.merges_ofList members) (readsInOrder_cards.mpr outcome)
          | ok cards =>
              exact .database accepted (Assoc.merges_ofList members)
                (readsInOrder_cards.mpr outcome)
      | _ => exact .notAnObject accepted (by simp [Json.shape])

/-- A text says only one thing, and the reader answers it. -/
theorem parse_eq_of_reads {text : String} {result : Except CardError Database}
    (reads : Reads text result) : parse text = result := by
  cases reads with
  | malformed refused => rw [parse, refused]
  | @notAnObject json accepted shape =>
      rw [parse, accepted]
      cases json with
      | object members => exact absurd rfl shape
      | _ => rfl
  | fault accepted merges read =>
      rw [parse, accepted]
      dsimp only
      rw [ofJson_object, ← merges.entries_eq, readsInOrder_cards.mp read]
      rfl
  | database accepted merges read =>
      rw [parse, accepted]
      dsimp only
      rw [ofJson_object, ← merges.entries_eq, readsInOrder_cards.mp read]
      rfl

/-- The reader gives every text the meaning that it has as a card document. -/
theorem parse_eq_iff_reads {text : String} {result : Except CardError Database} :
    parse text = result ↔ Reads text result := by
  constructor
  · rintro rfl
    exact reads_parse text
  · exact parse_eq_of_reads

/-! ### The order of the cards -/

/-- The ids that a document gives, in order and as often as they come. -/
def documentIds (text : String) : List String :=
  match Json.parse? text with
  | some (.object members) => members.map Prod.fst
  | _ => []

/-- The cards of a document stand in the order in which their ids first come. -/
theorem ids_of_parse {text : String} {database : Database}
    (accepted : parse text = .ok database) : database.ids = (documentIds text).eraseDups := by
  have reads := reads_parse text
  rw [accepted] at reads
  cases reads with
  | @database members merged cards document merges read =>
      rw [documentIds, document, ← merges.keys_eq]
      exact Card.map_id_of_reads read

end Database

end CardCodex
