/-
Module: CardCodex.Proofs.Describing
Purpose: Describing a value reads exactly the texts that denote a word, and its line tells
  which tag and which integer were asked about.
Main exports: GameTag.renderedDirectory?_eq, GameTag.ShownAs, GameTag.shownAs_renderValue,
  describeValue_injective, Requests, describe_eq_ok_iff, AnsweredAsAsked,
  describe_answeredAsAsked
-/
import CardCodex.Command.Describe
import CardCodex.Proofs.Decimal
import CardCodex.Proofs.Lookup

namespace CardCodex

/-! ### How a value is shown -/

namespace GameTag

/-- The tags that are shown by name are the tags of an enumeration, each with its own. -/
theorem renderedDirectory?_eq (tag : GameTag) : tag.renderedDirectory? = tag.directory? := by
  cases tag <;> rfl

theorem directory?_of_item {tag : GameTag} {id : EnumId} (isItem : tag.kind = .item id) :
    tag.directory? = some id.directory := by
  rw [directory?, isItem]
  rfl

theorem directory?_of_scalar {tag : GameTag} {category : Category}
    (isScalar : tag.kind = .scalar category) : tag.directory? = none := by
  rw [directory?, isScalar]
  rfl

/-- What is shown for an integer as an item of an enumeration. -/
inductive ShownAs (id : EnumId) (value : Int32) : String → Prop where
  | item (item : id.Item) (valued : Enumeration.value item = value) :
      ShownAs id value (Enumeration.itemName item)
  | unknown (undeclared : ∀ item : id.Item, Enumeration.value item ≠ value) :
      ShownAs id value unknownName

theorem ShownAs.functional {id : EnumId} {value : Int32} {first second : String}
    (shownFirst : ShownAs id value first) (shownSecond : ShownAs id value second) :
    first = second := by
  cases shownFirst with
  | item item valued =>
      cases shownSecond with
      | item other otherValued =>
          rw [Enumeration.value_injective (valued.trans otherValued.symm)]
      | unknown undeclared => exact absurd valued (undeclared item)
  | unknown undeclared =>
      cases shownSecond with
      | item other otherValued => exact absurd otherValued (undeclared other)
      | unknown _ => rfl

/-- A tag of an enumeration shows its integers as items of the enumeration. -/
theorem shownAs_renderValue {tag : GameTag} {id : EnumId} (isItem : tag.kind = .item id)
    (value : Int32) : ShownAs id value (tag.renderValue value) := by
  rw [renderValue, renderedDirectory?_eq, directory?_of_item isItem]
  dsimp only
  cases named : id.directory.nameOf value with
  | ok name =>
      obtain ⟨item, valued, rfl⟩ := EnumId.nameOf_eq_ok_iff.mp named
      exact .item item valued
  | error reason => exact .unknown (EnumId.nameOf_eq_error_iff.mp named).1

/-- No enumeration that a tag draws its values from has an item that goes by the name for
items without a name. -/
theorem itemName_ne_unknownName {tag : GameTag} {id : EnumId} (isItem : tag.kind = .item id)
    (item : id.Item) : Enumeration.itemName item ≠ unknownName := by
  have ofEach : ∀ id ∈ [EnumId.tribe, .cardType, .step, .zone], ∀ item : id.Item,
      Enumeration.itemName item ≠ unknownName := by
    intro id member item
    simp only [List.mem_cons, List.not_mem_nil, or_false] at member
    rcases member with rfl | rfl | rfl | rfl <;> cases item <;> decide
  have oneOf : id ∈ [EnumId.tribe, .cardType, .step, .zone] := by
    cases tag <;> cases isItem <;> decide
  exact ofEach id oneOf item

theorem ShownAs.eq_unknownName_iff {tag : GameTag} {id : EnumId} {value : Int32}
    (isItem : tag.kind = .item id) :
    ShownAs id value unknownName ↔ ∀ item : id.Item, Enumeration.value item ≠ value := by
  constructor
  · intro shown
    generalize nameEq : unknownName = name at shown
    cases shown with
    | item item valued => exact absurd nameEq.symm (itemName_ne_unknownName isItem item)
    | unknown undeclared => exact undeclared
  · exact .unknown

end GameTag

/-! ### The line of a description -/

theorem GameTag.not_mem_itemName (tag : GameTag) {c : Char} (noNameChar : isNameChar c = false) :
    c ∉ (Enumeration.itemName tag).toList :=
  @EnumId.not_mem_itemName .gameTag tag c noNameChar

/-- A name that is shown has no other characters than names of items. -/
theorem GameTag.ShownAs.not_mem {id : EnumId} {value : Int32} {shown : String}
    (isShown : ShownAs id value shown) {c : Char} (noNameChar : isNameChar c = false) :
    c ∉ shown.toList := by
  cases isShown with
  | item item valued => exact EnumId.not_mem_itemName item noNameChar
  | unknown undeclared =>
      intro member
      have nameChars : unknownName.toList.all isNameChar = true := by decide
      rw [List.all_eq_true.mp nameChars c member] at noNameChar
      cases noNameChar

/-- What a line has between the colon after the tag and the integer. -/
def describedKind (kind : TagKind) : List Char :=
  ' ' :: ((Enumeration.itemName kind.category).toList ++
    match kind with
    | .item id => ' ' :: (id.name.toList ++ [',', ' '])
    | .scalar _ => [',', ' '])

/-- What a line has up to the integer. -/
def describedHead (tag : GameTag) (value : Int32) : List Char :=
  (Enumeration.itemName tag).toList ++
    ':' :: (describedKind tag.kind ++ integerChars value.toInt)

/-- What a line has after the integer. -/
def describedItem (tag : GameTag) (value : Int32) : List Char :=
  match tag.kind with
  | .item _ => [' '] ++ '=' :: ' ' :: (tag.renderValue value).toList
  | .scalar _ => []

theorem toList_describeValue (tag : GameTag) (value : Int32) :
    (describeValue tag value).toList = describedHead tag value ++ describedItem tag value := by
  rw [describeValue, describedHead, describedItem, GameTag.directory?, GameTag.category]
  cases tag.kind with
  | scalar category => simp [TagKind.enumId?, TagKind.category, describedKind, writtenInteger]
  | item id =>
      have nameEq : id.directory.enumName = id.name := by
        rw [EnumId.directory_eq_declared]
        exact id.name_item
      simp [TagKind.enumId?, TagKind.category, describedKind, writtenInteger, nameEq]

/-- Neither of the signs that divide a line is part of what it has between them. -/
theorem sign_not_mem_describedKind (kind : TagKind) :
    ':' ∉ describedKind kind ∧ '=' ∉ describedKind kind := by
  cases kind with
  | item id => cases id <;> decide
  | scalar category => cases category <;> decide

theorem colon_not_mem_describedItem (tag : GameTag) (value : Int32) :
    ':' ∉ describedItem tag value := by
  rw [describedItem]
  split
  · next id isItem =>
      have noColon := (GameTag.shownAs_renderValue isItem value).not_mem (c := ':') rfl
      simpa using noColon
  · exact List.not_mem_nil

theorem equals_not_mem_describedHead (tag : GameTag) (value : Int32) :
    '=' ∉ describedHead tag value := by
  simp only [describedHead, List.mem_append, List.mem_cons, not_or]
  exact ⟨tag.not_mem_itemName rfl, by decide, (sign_not_mem_describedKind tag.kind).2,
    not_mem_integerChars value.toInt rfl⟩

/-- The only equals sign of a line stands before what is shown. -/
theorem line_eq_iff {tag : GameTag} {id : EnumId} (isItem : tag.kind = .item id) {value : Int32}
    {front rest : List Char} :
    describedHead tag value ++ describedItem tag value = front ++ ' ' :: '=' :: rest ↔
      describedHead tag value = front ∧ ' ' :: (tag.renderValue value).toList = rest := by
  have noSign : '=' ∉ describedHead tag value ++ [' '] := by
    simpa using equals_not_mem_describedHead tag value
  have noSignAfter : '=' ∉ ' ' :: (tag.renderValue value).toList := by
    have inName := (GameTag.shownAs_renderValue isItem value).not_mem (c := '=') rfl
    simpa using inName
  rw [describedItem, isItem, List.append_cons front, ← List.append_assoc,
    List.append_cons_inj_of_notMem noSign noSignAfter, List.append_left_inj]
  simp

/-- The line tells the tag and the integer. -/
theorem describeValue_injective {tag other : GameTag} {value number : Int32}
    (same : describeValue tag value = describeValue other number) :
    tag = other ∧ value = number := by
  have sameChars := congrArg String.toList same
  rw [toList_describeValue, toList_describeValue] at sameChars
  -- The name of the tag ends before the only colon.
  have sameName : Enumeration.itemName tag = Enumeration.itemName other := by
    have noColon : ':' ∉ describedKind tag.kind ++
        (integerChars value.toInt ++ describedItem tag value) := by
      simp only [List.mem_append, not_or]
      exact ⟨(sign_not_mem_describedKind tag.kind).1, not_mem_integerChars value.toInt rfl,
        colon_not_mem_describedItem tag value⟩
    simp only [describedHead, List.append_assoc, List.cons_append] at sameChars
    exact String.toList_injective
      ((List.append_cons_inj_of_notMem (tag.not_mem_itemName rfl) noColon).mp sameChars).1
  obtain rfl : tag = other := Enumeration.itemName_injective sameName
  have sameHead : describedHead tag value = describedHead tag number := by
    cases kind : tag.kind with
    | item id =>
        rw [describedItem.eq_1 tag number, kind] at sameChars
        exact ((line_eq_iff kind).mp sameChars).1
    | scalar category =>
        simpa [describedItem, kind] using sameChars
  have sameInteger : integerChars value.toInt = integerChars number.toInt := by
    simpa [describedHead] using sameHead
  exact ⟨rfl, Int32.toInt_inj.mp (integerChars_injective sameInteger)⟩

/-- The line of a tag of an enumeration ends with what is shown for the integer. -/
theorem exists_front_iff {tag : GameTag} {id : EnumId} (isItem : tag.kind = .item id)
    {value : Int32} {shown : String} :
    (∃ front, describeValue tag value = front ++ " = " ++ shown) ↔
      GameTag.ShownAs id value shown := by
  have rendered := GameTag.shownAs_renderValue isItem value
  have splits (front : String) : describeValue tag value = front ++ " = " ++ shown ↔
      describedHead tag value = front.toList ∧ (tag.renderValue value).toList = shown.toList := by
    have signChars : (front ++ " = " ++ shown).toList =
        front.toList ++ ' ' :: '=' :: ' ' :: shown.toList := by
      simp
    rw [← String.toList_inj, toList_describeValue, signChars, line_eq_iff isItem,
      List.cons_inj_right]
  constructor
  · rintro ⟨front, split⟩
    rw [← String.toList_injective ((splits front).mp split).2]
    exact rendered
  · intro isShown
    obtain rfl := isShown.functional rendered
    exact ⟨String.ofList (describedHead tag value), (splits _).mpr ⟨by simp, rfl⟩⟩

/-- The line of any other tag has no equals sign. -/
theorem equals_not_mem_describeValue {tag : GameTag} {category : Category}
    (isScalar : tag.kind = .scalar category) (value : Int32) :
    '=' ∉ (describeValue tag value).toList := by
  rw [toList_describeValue, describedItem, isScalar, List.append_nil]
  exact equals_not_mem_describedHead tag value

/-! ### Requests -/

/-- A request names a tag, in any ASCII casing, and denotes a word. -/
structure Requests (tagName text : String) (tag : GameTag) (value : Int32) : Prop where
  named : Enumeration.itemName tag = upperCase tagName
  denoted : Denotes text.toList value.toInt

theorem Requests.functional {tagName text : String} {tag other : GameTag} {value number : Int32}
    (requests : Requests tagName text tag value)
    (requestsOther : Requests tagName text other number) :
    tag = other ∧ value = number := by
  refine ⟨Enumeration.itemName_injective (requests.named.trans requestsOther.named.symm), ?_⟩
  have read := readWord?_eq_some_iff.mpr requests.denoted
  have readOther := readWord?_eq_some_iff.mpr requestsOther.denoted
  exact Option.some.inj (read.symm.trans readOther)

section Requests

variable {tagName text : String}

/-- The tag is looked up before the integer is read. -/
theorem describe_of_unknown
    (unknown : ∀ tag : GameTag, Enumeration.itemName tag ≠ upperCase tagName) :
    describe tagName text = .error (.unknownTag (.unknownName "GameTag" tagName)) := by
  have parsed : Enumeration.parse GameTag tagName = .error (.unknownName "GameTag" tagName) :=
    Enumeration.parse_eq_error_iff.mpr ⟨unknown, rfl⟩
  delta describe
  simp only [parsed]

theorem describe_of_noWord {tag : GameTag} (named : Enumeration.itemName tag = upperCase tagName)
    (noWord : readWord? text = none) :
    describe tagName text = .error (.notAnInteger text) := by
  have parsed : Enumeration.parse GameTag tagName = .ok tag :=
    Enumeration.parse_eq_ok_iff.mpr named
  delta describe
  simp only [parsed, noWord]

theorem Requests.describe_eq {tag : GameTag} {value : Int32}
    (requests : Requests tagName text tag value) :
    describe tagName text = .ok (describeValue tag value) := by
  have parsed : Enumeration.parse GameTag tagName = .ok tag :=
    Enumeration.parse_eq_ok_iff.mpr requests.named
  have read := readWord?_eq_some_iff.mpr requests.denoted
  delta describe
  simp only [parsed, read]

/-- What is asked names no tag, denotes no word, or is a request. -/
theorem request_cases (tagName text : String) :
    (∀ tag : GameTag, Enumeration.itemName tag ≠ upperCase tagName) ∨
      (∃ tag : GameTag, Enumeration.itemName tag = upperCase tagName ∧ readWord? text = none) ∨
        ∃ tag value, Requests tagName text tag value := by
  by_cases known : ∃ tag : GameTag, Enumeration.itemName tag = upperCase tagName
  · obtain ⟨tag, named⟩ := known
    cases read : readWord? text with
    | none => exact .inr (.inl ⟨tag, named, rfl⟩)
    | some value => exact .inr (.inr ⟨tag, value, named, readWord?_eq_some_iff.mp read⟩)
  · exact .inl (not_exists.mp known)

theorem describe_eq_ok_iff {line : String} :
    describe tagName text = .ok line ↔
      ∃ tag value, Requests tagName text tag value ∧ describeValue tag value = line := by
  constructor
  · intro described
    rcases request_cases tagName text with unknown | ⟨tag, named, noWord⟩ | ⟨tag, value, requests⟩
    · rw [describe_of_unknown unknown] at described
      cases described
    · rw [describe_of_noWord named noWord] at described
      cases described
    · rw [requests.describe_eq] at described
      exact ⟨tag, value, requests, Except.ok.inj described⟩
  · rintro ⟨tag, value, requests, rfl⟩
    exact requests.describe_eq

theorem describe_eq_unknownTag_iff :
    describe tagName text = .error (.unknownTag (.unknownName "GameTag" tagName)) ↔
      ∀ tag : GameTag, Enumeration.itemName tag ≠ upperCase tagName := by
  constructor
  · intro failed
    rcases request_cases tagName text with unknown | ⟨tag, named, noWord⟩ | ⟨tag, value, requests⟩
    · exact unknown
    · rw [describe_of_noWord named noWord] at failed
      cases failed
    · rw [requests.describe_eq] at failed
      cases failed
  · exact describe_of_unknown

theorem describe_eq_notAnInteger_iff :
    describe tagName text = .error (.notAnInteger text) ↔
      (∃ tag : GameTag, Enumeration.itemName tag = upperCase tagName) ∧
        ¬ ∃ n, Denotes text.toList n ∧ -2147483648 ≤ n ∧ n ≤ 2147483647 := by
  rw [← readWord?_eq_none_iff]
  constructor
  · intro failed
    rcases request_cases tagName text with unknown | ⟨tag, named, noWord⟩ | ⟨tag, value, requests⟩
    · rw [describe_of_unknown unknown] at failed
      cases failed
    · exact ⟨⟨tag, named⟩, noWord⟩
    · rw [requests.describe_eq] at failed
      cases failed
  · rintro ⟨⟨tag, named⟩, noWord⟩
    exact describe_of_noWord named noWord

/-- What the line of a request shows. -/
theorem shown_iff_of_requests {tag : GameTag} {value : Int32}
    (requests : Requests tagName text tag value) (shown : String) :
    (∃ front, describeValue tag value = front ++ " = " ++ shown) ↔
      ∃ tag value id, Requests tagName text tag value ∧ tag.kind = .item id ∧
        GameTag.ShownAs id value shown := by
  constructor
  · rintro ⟨front, split⟩
    cases kind : tag.kind with
    | item id => exact ⟨tag, value, id, requests, kind, (exists_front_iff kind).mp ⟨front, split⟩⟩
    | scalar category =>
        have noSign := equals_not_mem_describeValue kind value
        rw [split] at noSign
        simp at noSign
  · rintro ⟨other, number, id, requestsOther, isItem, isShown⟩
    obtain ⟨rfl, rfl⟩ := requests.functional requestsOther
    exact (exists_front_iff isItem).mpr isShown

end Requests

/-- What describing answers to a request.  The answer is an error or a line, and the line
shows what was asked about. -/
structure AnsweredAsAsked (tagName text : String) : Prop where
  /-- A name that no tag has is reported as it is spelled, whatever the value is. -/
  unknownTag_iff :
    describe tagName text = .error (.unknownTag (.unknownName "GameTag" tagName)) ↔
      ∀ tag : GameTag, Enumeration.itemName tag ≠ upperCase tagName
  /-- Otherwise a text that denotes no word is reported as it is, blanks included. -/
  notAnInteger_iff :
    describe tagName text = .error (.notAnInteger text) ↔
      (∃ tag : GameTag, Enumeration.itemName tag = upperCase tagName) ∧
        ¬ ∃ n, Denotes text.toList n ∧ -2147483648 ≤ n ∧ n ≤ 2147483647
  /-- In all other cases there is a line. -/
  isOk_iff :
    (∃ line, describe tagName text = .ok line) ↔ ∃ tag value, Requests tagName text tag value
  /-- Two requests have the same line when they name one tag and denote one integer. -/
  line_eq_iff : ∀ {otherName otherText line otherLine : String},
    describe tagName text = .ok line → describe otherName otherText = .ok otherLine →
      (line = otherLine ↔
        ∃ tag value, Requests tagName text tag value ∧ Requests otherName otherText tag value)
  /-- The line ends with the item of the integer, where the tag has an enumeration. -/
  shown_iff : ∀ {line shown : String}, describe tagName text = .ok line →
    ((∃ front, line = front ++ " = " ++ shown) ↔
      ∃ tag value id, Requests tagName text tag value ∧ tag.kind = .item id ∧
        GameTag.ShownAs id value shown)
  /-- The line of any other tag shows no item. -/
  shows_iff : ∀ {line : String}, describe tagName text = .ok line →
    ((∃ front shown, line = front ++ " = " ++ shown) ↔
      ∃ tag value id, Requests tagName text tag value ∧ tag.kind = .item id)
  /-- What is shown is no name exactly when no item has the integer. -/
  unknown_iff : ∀ {line : String}, describe tagName text = .ok line →
    ((∃ front, line = front ++ " = " ++ unknownName) ↔
      ∃ tag value id, Requests tagName text tag value ∧ tag.kind = .item id ∧
        ∀ item : EnumId.Item id, Enumeration.value item ≠ value)

/-- A request is described as it asks, and the line tells what it asked. -/
theorem describe_answeredAsAsked (tagName text : String) : AnsweredAsAsked tagName text := by
  constructor
  · exact describe_eq_unknownTag_iff
  · exact describe_eq_notAnInteger_iff
  · constructor
    · rintro ⟨line, described⟩
      obtain ⟨tag, value, requests, _⟩ := describe_eq_ok_iff.mp described
      exact ⟨tag, value, requests⟩
    · rintro ⟨tag, value, requests⟩
      exact ⟨_, describe_eq_ok_iff.mpr ⟨tag, value, requests, rfl⟩⟩
  · intro otherName otherText line otherLine described describedOther
    obtain ⟨tag, value, requests, rfl⟩ := describe_eq_ok_iff.mp described
    obtain ⟨other, number, requestsOther, rfl⟩ := describe_eq_ok_iff.mp describedOther
    constructor
    · intro same
      obtain ⟨rfl, rfl⟩ := describeValue_injective same
      exact ⟨tag, value, requests, requestsOther⟩
    · rintro ⟨both, word, requestsBoth, requestsBothOther⟩
      obtain ⟨rfl, rfl⟩ := requests.functional requestsBoth
      obtain ⟨rfl, rfl⟩ := requestsOther.functional requestsBothOther
      rfl
  · intro line shown described
    obtain ⟨tag, value, requests, rfl⟩ := describe_eq_ok_iff.mp described
    exact shown_iff_of_requests requests shown
  · intro line described
    obtain ⟨tag, value, requests, rfl⟩ := describe_eq_ok_iff.mp described
    constructor
    · rintro ⟨front, shown, split⟩
      obtain ⟨other, number, id, requestsOther, isItem, _⟩ :=
        (shown_iff_of_requests requests shown).mp ⟨front, split⟩
      exact ⟨other, number, id, requestsOther, isItem⟩
    · rintro ⟨other, number, id, requestsOther, isItem⟩
      have rendered := GameTag.shownAs_renderValue isItem number
      obtain ⟨front, split⟩ := (shown_iff_of_requests requests _).mpr
        ⟨other, number, id, requestsOther, isItem, rendered⟩
      exact ⟨front, _, split⟩
  · intro line described
    obtain ⟨tag, value, requests, rfl⟩ := describe_eq_ok_iff.mp described
    rw [shown_iff_of_requests requests unknownName]
    constructor
    · rintro ⟨other, number, id, requestsOther, isItem, isShown⟩
      exact ⟨other, number, id, requestsOther, isItem,
        (GameTag.ShownAs.eq_unknownName_iff isItem).mp isShown⟩
    · rintro ⟨other, number, id, requestsOther, isItem, undeclared⟩
      exact ⟨other, number, id, requestsOther, isItem, .unknown undeclared⟩

end CardCodex
