/-
Module: CardCodex.Proofs.Fitting
Purpose: What becomes of a value that is offered for a tag.  A caller's value is held, in one
  form for each item, or refused with the word for what it is; and a refusal asks for the
  category of the tag, but for floats in documents, which are asked to be numbers.
Main exports: TagValue.Misfit, TagValue.Takes, TagValue.takes_iff, Card.Takes,
  Card.run_assign_eq_iff, GameTag.askedCategory, Database.exists_entry_of_unfit,
  GameTag.wrongShape_asks_category_iff
-/
import CardCodex.Proofs.Typing

namespace CardCodex

/-! ### The words for shapes -/

namespace Shape

/-- Every shape. -/
def all : List Shape :=
  [.null, .boolean, .integer, .float, .string, .array, .object] ++ EnumId.all.map .item

theorem mem_all (shape : Shape) : shape ∈ all := by
  cases shape with
  | item id =>
      apply List.mem_append_right
      exact List.mem_map.mpr ⟨id, id.mem_all, rfl⟩
  | _ => simp [all]

theorem labels_nodup : (all.map label).Nodup := by
  decide

/-- No two shapes go by the same word. -/
theorem label_injective {first second : Shape} (same : first.label = second.label) :
    first = second :=
  List.inj_on_of_nodup_map labels_nodup first.mem_all second.mem_all same

end Shape

/-! ### What a tag does with a value that a caller offers -/

namespace TagValue

/-- The two ways in which a caller can offer the item of an enumeration that has a given
value. -/
inductive Offers (id : EnumId) (value : Int32) : TagValue → Prop where
  | integer : Offers id value (.int value)
  | item : Offers id value (.item id value)

/-- A value that is not of the kind of its tag, and the word for what it is. -/
inductive Misfit (tag : GameTag) : TagValue → String → Prop where
  | textForItem {id : EnumId} {content : String} (isItem : tag.kind = .item id) :
      Misfit tag (.text content) "string"
  | foreignItem {id other : EnumId} {value : Int32} (isItem : tag.kind = .item id)
      (foreign : other ≠ id) : Misfit tag (.item other value) other.name
  | integerForText {value : Int32} (isText : tag.kind = .scalar .string) :
      Misfit tag (.int value) "integer"
  | textForNumber {category : Category} {content : String}
      (isNumber : tag.kind = .scalar category) (notText : category ≠ .string) :
      Misfit tag (.text content) "string"
  | itemForScalar {category : Category} {id : EnumId} {value : Int32}
      (isScalar : tag.kind = .scalar category) : Misfit tag (.item id value) id.name

/-- What a tag makes of a value that a caller offers: the value to hold, or why there is
none. -/
inductive Takes (tag : GameTag) : TagValue → Except TagFault TagValue → Prop where
  | item {id : EnumId} {offered : TagValue} (item : id.Item) (isItem : tag.kind = .item id)
      (offers : Offers id (Enumeration.value item) offered) :
      Takes tag offered (.ok (.item id (Enumeration.value item)))
  | undeclared {id : EnumId} {value : Int32} {offered : TagValue}
      (isItem : tag.kind = .item id) (offers : Offers id value offered)
      (noItem : ∀ item : id.Item, Enumeration.value item ≠ value) :
      Takes tag offered (.error (.invalidItem (.unknownValue id.name value)))
  | text {content : String} (isText : tag.kind = .scalar .string) :
      Takes tag (.text content) (.ok (.text content))
  | int {category : Category} {value : Int32} (isNumber : tag.kind = .scalar category)
      (notText : category ≠ .string) : Takes tag (.int value) (.ok (.int value))
  | misfit {offered : TagValue} {found : Shape} (misfit : Misfit tag offered found.label) :
      Takes tag offered (.error (.wrongShape tag.category found))

variable {tag : GameTag}

/-- The word for a misfit is the word for its shape. -/
theorem Misfit.label_shape {offered : TagValue} {word : String}
    (misfit : Misfit tag offered word) : offered.shape.label = word := by
  cases misfit <;> rfl

/-- A misfit is refused. -/
theorem Misfit.fit_eq {offered : TagValue} {word : String} (misfit : Misfit tag offered word) :
    fit tag offered = .error (.wrongShape tag.category offered.shape) := by
  cases misfit with
  | textForItem isItem => simp [fit, isItem]
  | foreignItem isItem foreign => simp [fit, isItem, foreign]
  | integerForText isText => simp [fit, isText]
  | textForNumber isNumber notText => simp [fit, isNumber, notText]
  | itemForScalar isScalar => simp [fit, isScalar]

/-- Both ways to offer an item come to the same check. -/
theorem Offers.fit_eq {id : EnumId} {value : Int32} {offered : TagValue}
    (offers : Offers id value offered) (isItem : tag.kind = .item id) :
    fit tag offered = declaredItem id value := by
  cases offers with
  | integer => simp [fit, isItem]
  | item => simp [fit, isItem]

theorem Takes.fit_eq {offered : TagValue} {result : Except TagFault TagValue}
    (takes : Takes tag offered result) : fit tag offered = result := by
  cases takes with
  | item item isItem offers =>
      rw [offers.fit_eq isItem, declaredItem, EnumId.nameOf_value]
  | undeclared isItem offers noItem =>
      have unnamed := EnumId.nameOf_eq_error_iff.mpr ⟨noItem, rfl⟩
      rw [offers.fit_eq isItem, declaredItem, unnamed]
  | text isText => simp [fit, isText]
  | int isNumber notText => simp [fit, isNumber, notText]
  | misfit misfit =>
      rw [misfit.fit_eq, Shape.label_injective misfit.label_shape]

theorem exists_takes_of_offers {id : EnumId} {value : Int32} {offered : TagValue}
    (isItem : tag.kind = .item id) (offers : Offers id value offered) :
    ∃ result, Takes tag offered result := by
  by_cases declared : ∃ item : id.Item, Enumeration.value item = value
  · obtain ⟨item, rfl⟩ := declared
    exact ⟨_, .item item isItem offers⟩
  · refine ⟨_, .undeclared isItem offers ?_⟩
    intro item same
    exact declared ⟨item, same⟩

/-- Whatever a caller offers, the tag makes something of it. -/
theorem exists_takes (tag : GameTag) (offered : TagValue) : ∃ result, Takes tag offered result := by
  have refused {word : String} (misfit : Misfit tag offered word) :
      ∃ result, Takes tag offered result := by
    rw [← misfit.label_shape] at misfit
    exact ⟨_, .misfit misfit⟩
  cases kind : tag.kind with
  | item id =>
      cases offered with
      | int value => exact exists_takes_of_offers kind .integer
      | text content => exact refused (.textForItem kind)
      | item other value =>
          by_cases same : other = id
          · subst same
            exact exists_takes_of_offers kind .item
          · exact refused (.foreignItem kind same)
  | scalar category =>
      by_cases isText : category = .string
      · subst isText
        cases offered with
        | int value => exact refused (.integerForText kind)
        | text content => exact ⟨_, .text kind⟩
        | item id value => exact refused (.itemForScalar kind)
      · cases offered with
        | int value => exact ⟨_, .int kind isText⟩
        | text content => exact refused (.textForNumber kind isText)
        | item id value => exact refused (.itemForScalar kind)

/-- The check of a value makes of it what the tag makes of it. -/
theorem takes_iff {offered : TagValue} {result : Except TagFault TagValue} :
    Takes tag offered result ↔ fit tag offered = result := by
  constructor
  · exact Takes.fit_eq
  · rintro rfl
    obtain ⟨result, takes⟩ := exists_takes tag offered
    rwa [takes.fit_eq]

end TagValue

/-! ### What a call that sets a tag answers and leaves -/

namespace Card

/-- What a call that offers a value for a tag of `card` answers, and the card that it
leaves. -/
inductive Takes (card : Card) (tag : GameTag) (offered : TagValue) :
    Except CardError Unit × Card → Prop where
  | held {value : TagValue} (takes : TagValue.Takes tag offered (.ok value)) :
      Takes card tag offered (.ok (), { card with tags := card.tags.insert tag value })
  | refused {fault : TagFault} (takes : TagValue.Takes tag offered (.error fault)) :
      Takes card tag offered (.error (.unfit card.id tag fault), card)

theorem takes_run_assign (card : Card) (tag : GameTag) (offered : TagValue) :
    card.Takes tag offered ((assign tag offered).run.run card) := by
  rw [run_assign]
  cases fitted : TagValue.fit tag offered with
  | ok value => exact .held (TagValue.takes_iff.mpr fitted)
  | error fault => exact .refused (TagValue.takes_iff.mpr fitted)

/-- Setting a tag succeeds for exactly the values that fit it, and holds them in their one
form; every other value is refused for what it is, and the card stays as it was. -/
theorem run_assign_eq_iff (card : Card) (tag : GameTag) (offered : TagValue)
    (outcome : Except CardError Unit × Card) :
    (assign tag offered).run.run card = outcome ↔ card.Takes tag offered outcome := by
  constructor
  · rintro rfl
    exact card.takes_run_assign tag offered
  · intro takes
    cases takes with
    | held takes => rw [run_assign, takes.fit_eq]
    | refused takes => rw [run_assign, takes.fit_eq]

end Card

/-! ### The category that a refusal asks for -/

/-- The category that a document is asked for when what it offers for `tag` has shape
`found` and is refused for that.  All numbers but integers are refused in one place, which
asks for a number whatever the tag. -/
def GameTag.askedCategory (tag : GameTag) (found : Shape) : Category :=
  if found = .float ∧ tag.isText = false then .number else tag.category

/-- A refusal asks for the category of the tag unless a float is found for a tag that is
neither a text nor a number. -/
theorem GameTag.askedCategory_eq_category_iff {tag : GameTag} {found : Shape} :
    tag.askedCategory found = tag.category ↔
      ¬ (found = .float ∧ tag.category ≠ .string ∧ tag.category ≠ .number) := by
  have isText : tag.isText = true ↔ tag.category = .string := by
    simp [GameTag.isText]
  by_cases textual : tag.category = .string
  · simp [askedCategory, isText.mpr textual, textual]
  · have notText : tag.isText = false := by
      rw [← Bool.not_eq_true, isText]
      exact textual
    by_cases isFloat : found = .float <;>
      simp [askedCategory, notText, textual, isFloat, eq_comm]

/-- What a document offers in a wrong shape is named by its shape. -/
theorem TagValue.Reads.eq_of_wrongShape {tag : GameTag} {json : Json} {expected : Category}
    {found : Shape} (reads : Reads tag json (.error (.wrongShape expected found))) :
    found = json.shape ∧ expected = tag.askedCategory json.shape := by
  cases reads with
  | noText isText shape =>
      simp [GameTag.askedCategory, GameTag.isText_iff.mpr isText, GameTag.category, isText,
        TagKind.category]
  | noItem isItem shape =>
      simp [GameTag.askedCategory, shape.2.2, GameTag.category, isItem, TagKind.category]
  | noNumber isNumber notText shape =>
      simp [GameTag.askedCategory, shape.2.2, GameTag.category, isNumber, TagKind.category]
  | float notText =>
      have noText : tag.isText = false := by
        rw [← Bool.not_eq_true, GameTag.isText_iff]
        exact notText
      simp [GameTag.askedCategory, Json.shape, noText]

theorem Card.Reads.exists_entry_of_unfit {id subject : String} {json : Json} {tag : GameTag}
    {fault : TagFault} (reads : Card.Reads id json (.error (.unfit subject tag fault))) :
    subject = id ∧ ∃ members key offer, json = .object members ∧ (key, offer) ∈ members ∧
      EqUpToCase key (Enumeration.itemName tag) ∧ TagValue.Reads tag offer (.error fault) := by
  cases reads with
  | fault merges read =>
      cases read with
      | firstFault before after split readBefore faulty =>
          cases faulty with
          | unfit named reads =>
              have member := merges.mem (split ▸ List.mem_append_right before List.mem_cons_self)
              refine ⟨rfl, _, _, _, rfl, member, ?_, reads⟩
              rw [← upperCase_eq_upperCase_iff, ← named,
                upperCase_eq_self (Enumeration.isCanonical_itemName tag)]

/-- When a document is refused for the value of a tag, some member of the card that the
error names offers that value under a spelling of the tag. -/
theorem Database.exists_entry_of_unfit {text id : String} {tag : GameTag} {fault : TagFault}
    (failed : parse text = .error (.unfit id tag fault)) :
    ∃ documents members key offer, Json.parse? text = some (.object documents) ∧
      (id, .object members) ∈ documents ∧ (key, offer) ∈ members ∧
      EqUpToCase key (Enumeration.itemName tag) ∧ TagValue.Reads tag offer (.error fault) := by
  have reads := reads_parse text
  rw [failed] at reads
  cases reads with
  | fault accepted merges read =>
      cases read with
      | @firstFault before after member fault split readBefore faulty =>
          obtain ⟨rfl, members, key, offer, jsonEq, entryMember, spelled, reads⟩ :=
            Card.Reads.exists_entry_of_unfit faulty
          have cardMember := merges.mem (split ▸ List.mem_append_right before List.mem_cons_self)
          have memberEq : member = (member.1, .object members) := Prod.ext rfl jsonEq
          rw [memberEq] at cardMember
          exact ⟨_, members, key, offer, accepted, cardMember, entryMember, spelled, reads⟩

theorem Card.eq_of_set_eq_wrongShape {card : Card} {asked tag : GameTag} {offered : TagValue}
    {id : String} {expected : Category} {found : Shape}
    (refused : card.set asked offered = .error (.unfit id tag (.wrongShape expected found))) :
    tag = asked ∧ expected = asked.category := by
  rw [set_eq] at refused
  cases fitted : TagValue.fit asked offered with
  | ok value => rw [fitted] at refused; cases refused
  | error fault =>
      rw [fitted] at refused
      cases refused
      -- Only misfits are refused for their shape.
      have takes := TagValue.takes_iff.mpr fitted
      cases takes with
      | misfit => exact ⟨rfl, rfl⟩

/-- A value of a wrong shape is refused with the category of its tag, always so when a
caller offers it; a document that offers a float for a tag that is neither a text nor a
number is asked for a number instead. -/
theorem GameTag.wrongShape_asks_category_iff (tag : GameTag) (expected : Category)
    (found : Shape) :
    (∀ text id, Database.parse text = .error (.unfit id tag (.wrongShape expected found)) →
      expected = tag.askedCategory found ∧
        (expected = tag.category ↔
          ¬ (found = .float ∧ tag.category ≠ .string ∧ tag.category ≠ .number))) ∧
    ∀ (card : Card) asked offered id,
      card.set asked offered = .error (.unfit id tag (.wrongShape expected found)) →
        tag = asked ∧ expected = tag.category := by
  constructor
  · intro text id failed
    obtain ⟨_, _, _, offer, _, _, _, _, reads⟩ := Database.exists_entry_of_unfit failed
    obtain ⟨rfl, rfl⟩ := reads.eq_of_wrongShape
    exact ⟨rfl, askedCategory_eq_category_iff⟩
  · intro card asked offered id refused
    obtain ⟨rfl, rfl⟩ := Card.eq_of_set_eq_wrongShape refused
    exact ⟨rfl, rfl⟩

/-- A zone is an item, yet one and a half is refused for not being a number. -/
theorem GameTag.zone_float_asks_number :
    Database.parse "\x7b\"C\": \x7b\"zone\": 1.5\x7d\x7d" =
        .error (.unfit "C" .zone (.wrongShape .number .float)) ∧
      GameTag.category .zone = .enum :=
  ⟨rfl, rfl⟩

end CardCodex
