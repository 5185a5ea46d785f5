/-
Module: CardCodex.Proofs.IntegerOffers
Purpose: What becomes of an integer literal of any length that a document offers for a tag.
  An integer is held exactly or refused; no digits are dropped and nothing wraps around.
Main exports: IntegerLiteral, integerLiteral_iff, IntegerValue, integerValue_iff,
  IntegerVerdict, Database.parse_offered_integer
-/
import CardCodex.Proofs.Decimal
import CardCodex.Proofs.DoubleLimit
import CardCodex.Proofs.Reading
import CardCodex.Proofs.SpacedText

namespace CardCodex

/-! ### Integer literals -/

/-- A JSON number that is written without point and exponent, minus zero apart.  No zero
stands before another digit. -/
inductive IntegerLiteral : List Char → Int → Prop where
  | zero : IntegerLiteral ['0'] 0
  | positive {digits : List Char} {n : Nat} (denotes : DigitsDenote digits n)
      (noZero : digits.head? ≠ some '0') : IntegerLiteral digits n
  | negative {digits : List Char} {n : Nat} (denotes : DigitsDenote digits n)
      (noZero : digits.head? ≠ some '0') : IntegerLiteral ('-' :: digits) (-n)

/-- Digits that do not start with a zero are the digits of a positive number. -/
theorem DigitsDenote.eq_toDigits {digits : List Char} {n : Nat} (denotes : DigitsDenote digits n)
    (noZero : digits.head? ≠ some '0') : 0 < n ∧ digits = Nat.toDigits 10 n := by
  induction denotes with
  | @single digit small =>
      have positive : 0 < digit := by
        apply Nat.pos_of_ne_zero
        rintro rfl
        exact noZero rfl
      exact ⟨positive, (Nat.toDigits_of_lt_base small).symm⟩
  | @snoc digits n digit earlier small inductionHypothesis =>
      have sameHead : (digits ++ [digit.digitChar]).head? = digits.head? :=
        List.head?_append_of_ne_nil _ (digitsDenote_iff.mp earlier).1
      rw [sameHead] at noZero
      obtain ⟨positive, rfl⟩ := inductionHypothesis noZero
      have whole : (10 * n + digit) / 10 = n := by omega
      have last : (10 * n + digit) % 10 = digit := by omega
      have large : 10 ≤ 10 * n + digit := by omega
      have splitLast := Nat.toDigits_of_base_le (by decide) large
      rw [whole, last] at splitLast
      exact ⟨by omega, splitLast.symm⟩

/-- An integer has one literal: its decimal digits, after a minus sign when it is negative. -/
theorem integerLiteral_iff {literal : List Char} {n : Int} :
    IntegerLiteral literal n ↔ literal = integerChars n := by
  constructor
  · intro isLiteral
    cases isLiteral with
    | zero => rfl
    | @positive digits n denotes noZero =>
        obtain ⟨_, rfl⟩ := denotes.eq_toDigits noZero
        have notNegative : ¬ (n : Int) < 0 := by omega
        rw [integerChars, if_neg notNegative]
        rfl
    | @negative digits n denotes noZero =>
        obtain ⟨positive, rfl⟩ := denotes.eq_toDigits noZero
        have isNegative : -(n : Int) < 0 := by omega
        rw [integerChars, if_pos isNegative, Int.natAbs_neg]
        rfl
  · rintro rfl
    have noZero : ∀ {m : Nat}, 0 < m → (Nat.toDigits 10 m).head? ≠ some '0' := by
      intro m positive
      obtain ⟨first, rest, digits, nonzero⟩ := head_toDigits_ne_zero positive
      rw [digits, List.head?_cons]
      exact fun isZero => nonzero (Option.some.inj isZero)
    have denotes := digitsDenote_toDigits n.natAbs
    rcases Int.lt_trichotomy n 0 with isNegative | rfl | isPositive
    · have isLiteral := IntegerLiteral.negative denotes (noZero (by omega))
      rw [integerChars, if_pos isNegative]
      have signed : -(n.natAbs : Int) = n := by omega
      rwa [signed] at isLiteral
    · exact .zero
    · have isLiteral := IntegerLiteral.positive denotes (noZero (by omega))
      have notNegative : ¬ n < 0 := by omega
      have unsigned : (n.natAbs : Int) = n := by omega
      rw [integerChars, if_neg notNegative]
      rwa [unsigned] at isLiteral

/-- What an integer literal is as JSON: an integer of 64 bits, a float when it is wider, or
nothing when it is too large for that. -/
inductive IntegerValue (n : Int) : Option Json → Prop where
  | integer (low : -2 ^ 63 ≤ n) (high : n < 2 ^ 64) : IntegerValue n (some (.integer n))
  | float (wide : n < -2 ^ 63 ∨ 2 ^ 64 ≤ n) (bounded : n.natAbs < Numeral.hugeMagnitude) :
      IntegerValue n (some (.float (writtenInteger n)))
  | huge (large : Numeral.hugeMagnitude ≤ n.natAbs) : IntegerValue n none

theorem Numeral.chars_integer (n : Int) :
    chars ⟨decide (n < 0), Nat.toDigits 10 n.natAbs, [], [], []⟩ = integerChars n := by
  simp [chars, integerChars]

/-- Every integer literal has its value, whatever its length. -/
theorem integerValue_atomValue? (n : Int) : IntegerValue n (atomValue? (integerChars n)) := by
  by_cases fits : -2 ^ 63 ≤ n ∧ n < 2 ^ 64
  · rw [atomValue?_integerChars fits.1 fits.2]
    exact .integer fits.1 fits.2
  · have wide : n < -2 ^ 63 ∨ 2 ^ 64 ≤ n := by omega
    have isHuge := Numeral.isHuge_eq_true_iff (decide (n < 0)) n.natAbs
    rw [atomValue?_integerChars_eq_value?, Numeral.value?_digits, if_neg fits, Numeral.float?]
    split
    · next large => exact .huge (isHuge.mp large)
    · next small =>
        rw [Numeral.chars_integer]
        exact .float wide (Nat.not_le.mp fun reached => small (isHuge.mpr reached))

theorem IntegerValue.functional {n : Int} {first second : Option Json}
    (isFirst : IntegerValue n first) (isSecond : IntegerValue n second) : first = second := by
  have wordsAreSmall : 2 ^ 64 < Numeral.hugeMagnitude := by decide +kernel
  cases isFirst <;> cases isSecond <;> first | rfl | omega

/-- An integer literal has its value as JSON, whatever its length. -/
theorem integerValue_iff {n : Int} {found : Option Json} :
    atomValue? (integerChars n) = found ↔ IntegerValue n found := by
  constructor
  · rintro rfl
    exact integerValue_atomValue? n
  · exact (integerValue_atomValue? n).functional

/-! ### Documents with one card and one tag -/

section OneTag

variable {text id key : String} {tag : GameTag} {json : Json}
  (document : Json.parse? text = some (.object [(id, .object [(key, json)])]))
  (named : Enumeration.itemName tag = upperCase key)

include document named

theorem Database.parse_of_oneTag {value : TagValue} (reads : TagValue.Reads tag json (.ok value)) :
    parse text = .ok (holding [⟨id, ⟨[(tag, value)]⟩⟩]) := by
  have card : Card.Reads id (.object [(key, json)]) (.ok ⟨id, ⟨[(tag, value)]⟩⟩) :=
    .card (Assoc.merges_self (List.nodup_singleton key)) (.all (.cons (.entry named reads) .nil))
      (Assoc.merges_self (List.nodup_singleton tag))
  exact parse_eq_of_reads
    (.database document (Assoc.merges_self (List.nodup_singleton id)) (.all (.cons card .nil)))

theorem Database.parse_of_oneTag_fault {fault : TagFault}
    (reads : TagValue.Reads tag json (.error fault)) :
    parse text = .error (.unfit id tag fault) := by
  have card : Card.Reads id (.object [(key, json)]) (.error (.unfit id tag fault)) :=
    .fault (Assoc.merges_self (List.nodup_singleton key))
      (.firstFault [] [] rfl nofun (.unfit named reads))
  exact parse_eq_of_reads
    (.fault document (Assoc.merges_self (List.nodup_singleton id))
      (.firstFault [] [] rfl nofun card))

end OneTag

/-- What becomes of a document that offers an integer for a tag of its one card.  An integer of
32 bits is held as it is, by an enumeration when it is declared there; a longer one is refused
as out of range, as a float, or, from one magnitude on, with the whole document. -/
inductive IntegerVerdict (id : String) (tag : GameTag) (n : Int) :
    Except CardError Database → Prop where
  | number {category : Category} {word : Int32} (isNumber : tag.kind = .scalar category)
      (notText : category ≠ .string) (held : word.toInt = n) :
      IntegerVerdict id tag n (.ok (.holding [⟨id, ⟨[(tag, .int word)]⟩⟩]))
  | item {enumId : EnumId} (item : enumId.Item) (isItem : tag.kind = .item enumId)
      (held : (Enumeration.value item).toInt = n) :
      IntegerVerdict id tag n
        (.ok (.holding [⟨id, ⟨[(tag, .item enumId (Enumeration.value item))]⟩⟩]))
  | undeclared {enumId : EnumId} {word : Int32} (isItem : tag.kind = .item enumId)
      (denoted : word.toInt = n)
      (undeclared : ∀ item : enumId.Item, Enumeration.value item ≠ word) :
      IntegerVerdict id tag n
        (.error (.unfit id tag (.invalidItem (.unknownValue enumId.name word))))
  | outOfRange (outside : n < -2 ^ 31 ∨ 2 ^ 31 ≤ n) (low : -2 ^ 63 ≤ n) (high : n < 2 ^ 64) :
      IntegerVerdict id tag n (.error (.unfit id tag (.outOfRange n)))
  | float (wide : n < -2 ^ 63 ∨ 2 ^ 64 ≤ n) (bounded : n.natAbs < Numeral.hugeMagnitude) :
      IntegerVerdict id tag n (.error (.unfit id tag (.wrongShape .number .float)))
  | malformed (large : Numeral.hugeMagnitude ≤ n.natAbs) :
      IntegerVerdict id tag n (.error .malformed)

section Integer

variable {text id key : String} {tag : GameTag} {n : Int}

/-- A document that offers an integer is JSON as far as the integer has a value. -/
theorem OffersLiteral.parse?_integer (offers : OffersLiteral id key (integerChars n) text)
    {found : Option Json} (value : IntegerValue n found) :
    Json.parse? text = found.map fun json => .object [(id, .object [(key, json)])] := by
  rw [offers.parse?_eq_map (integerChars_ne_nil n) isAtomChar_of_mem_integerChars,
    integerValue_iff.mpr value]

theorem IntegerVerdict.parse_eq (offers : OffersLiteral id key (integerChars n) text)
    (named : Enumeration.itemName tag = upperCase key) (notText : tag.kind ≠ .scalar .string)
    {result : Except CardError Database} (verdict : IntegerVerdict id tag n result) :
    Database.parse text = result := by
  cases verdict with
  | @number category word isNumber noString held =>
      have low := word.le_toInt
      have high := word.toInt_lt
      have document := offers.parse?_integer (.integer (by omega) (by omega))
      exact Database.parse_of_oneTag document named (.number isNumber noString held)
  | @item enumId item isItem held =>
      have low := (Enumeration.value item).le_toInt
      have high := (Enumeration.value item).toInt_lt
      have document := offers.parse?_integer (.integer (by omega) (by omega))
      exact Database.parse_of_oneTag document named (.itemOfValue item isItem held)
  | @undeclared enumId word isItem denoted undeclared =>
      have low := word.le_toInt
      have high := word.toInt_lt
      have document := offers.parse?_integer (.integer (by omega) (by omega))
      exact Database.parse_of_oneTag_fault document named
        (.unknownValue isItem denoted undeclared)
  | outOfRange outside low high =>
      have document := offers.parse?_integer (.integer low high)
      exact Database.parse_of_oneTag_fault document named (.outOfRange notText (by omega))
  | float wide bounded =>
      have document := offers.parse?_integer (.float wide bounded)
      exact Database.parse_of_oneTag_fault document named (.float notText)
  | malformed large =>
      exact Database.parse_eq_of_reads (.malformed (offers.parse?_integer (.huge large)))

/-- Every integer has a verdict. -/
theorem exists_integerVerdict (id : String) (notText : tag.kind ≠ .scalar .string) (n : Int) :
    ∃ result, IntegerVerdict id tag n result := by
  by_cases long : -2 ^ 63 ≤ n ∧ n < 2 ^ 64
  · cases denoted : word? n with
    | none =>
        have outside := word?_eq_none_iff.mp denoted
        exact ⟨_, .outOfRange (by omega) long.1 long.2⟩
    | some word =>
        have held := word?_eq_some_iff.mp denoted
        cases kind : tag.kind with
        | scalar category =>
            have noString : category ≠ .string := fun isString => notText (isString ▸ kind)
            exact ⟨_, .number kind noString held⟩
        | item enumId =>
            by_cases declared : ∃ item : enumId.Item, Enumeration.value item = word
            · obtain ⟨item, rfl⟩ := declared
              exact ⟨_, .item item kind held⟩
            · exact ⟨_, .undeclared kind held fun item valued => declared ⟨item, valued⟩⟩
  · have wide : n < -2 ^ 63 ∨ 2 ^ 64 ≤ n := by omega
    rcases Nat.lt_or_ge n.natAbs Numeral.hugeMagnitude with bounded | large
    · exact ⟨_, .float wide bounded⟩
    · exact ⟨_, .malformed large⟩

/-- What is held for an integer is the integer, as a number or as an item. -/
theorem IntegerVerdict.exists_held {id : String} {database : Database}
    (verdict : IntegerVerdict id tag n (.ok database)) :
    ∃ value word, database = .holding [⟨id, ⟨[(tag, value)]⟩⟩] ∧
      value.asInt? = some word ∧ word.toInt = n := by
  cases verdict with
  | number isNumber notText held => exact ⟨_, _, rfl, rfl, held⟩
  | item item isItem held => exact ⟨_, _, rfl, rfl, held⟩

/-- What is reported as out of range is the integer as it is written. -/
theorem IntegerVerdict.writtenInteger_eq {id : String} {found : Int}
    (verdict : IntegerVerdict id tag n (.error (.unfit id tag (.outOfRange found)))) :
    writtenInteger found = String.ofList (integerChars n) := by
  cases verdict with
  | outOfRange outside low high => rfl

/-- An integer literal of any length is held exactly or refused: the answer to a document
that offers it for a tag that is no text is the verdict on the integer, whatever is held
denotes the integer, and whatever is reported as out of range is the literal. -/
theorem Database.parse_offered_integer {id : String} {literal : List Char}
    (offers : OffersLiteral id key literal text) (isInteger : IntegerLiteral literal n)
    (named : Enumeration.itemName tag = upperCase key) (notText : tag.kind ≠ .scalar .string) :
    (∀ result, parse text = result ↔ IntegerVerdict id tag n result) ∧
      (∀ database, parse text = .ok database →
        ∃ value word, database = holding [⟨id, ⟨[(tag, value)]⟩⟩] ∧
          value.asInt? = some word ∧ word.toInt = n) ∧
      ∀ found, parse text = .error (.unfit id tag (.outOfRange found)) →
        writtenInteger found = String.ofList literal := by
  obtain rfl := integerLiteral_iff.mp isInteger
  have isVerdict : ∀ result, parse text = result ↔ IntegerVerdict id tag n result := by
    intro result
    constructor
    · rintro rfl
      obtain ⟨result, verdict⟩ := exists_integerVerdict id notText n
      rwa [verdict.parse_eq offers named notText]
    · exact fun verdict => verdict.parse_eq offers named notText
  refine ⟨isVerdict, ?_, ?_⟩
  · intro database accepted
    exact ((isVerdict _).mp accepted).exists_held
  · intro found refused
    exact ((isVerdict _).mp refused).writtenInteger_eq

end Integer

/-! ### Two integers -/

/-- A document that offers an integer, without blanks and escapes. -/
def offerText (id key : String) (n : Int) : String :=
  let quote (content : String) : List Char := '"' :: (content.toList ++ ['"'])
  let before := ['\x7b'] ++ (quote id ++ ([':'] ++ (['\x7b'] ++ (quote key ++ ([':'] ++ [])))))
  String.ofList (before ++ (integerChars n ++ ['\x7d', '\x7d']))

theorem offersLiteral_offerText {id key : String} (plainId : Spells id.toList id.toList)
    (plainKey : Spells key.toList key.toList) (n : Int) :
    OffersLiteral id key (integerChars n) (offerText id key n) := by
  have prepend : ∀ {token : Token} {tokens : List Token} {piece text : List Char},
      TokenSpells token piece → Spaced tokens text → Spaced (token :: tokens) (piece ++ text) :=
    fun first rest => .cons (List.forall_mem_nil _) first rest
  have done : Spaced [] [] := .nil (List.forall_mem_nil _)
  exact .document
    (prepend (.punctuation rfl) (prepend (.string plainId) (prepend (.punctuation rfl)
      (prepend (.punctuation rfl) (prepend (.string plainKey) (prepend (.punctuation rfl) done))))))
    (prepend (.punctuation rfl) (prepend (.punctuation rfl) done))

namespace Database

/-- An integer that exceeds the value of a zone by `2 ^ 32` is out of range. -/
theorem parse_offered_congruent_zone :
    OffersLiteral "C" "zone" (integerChars 4294967297) (offerText "C" "zone" 4294967297) ∧
      parse (offerText "C" "zone" 4294967297) =
        .error (.unfit "C" .zone (.outOfRange 4294967297)) := by
  have offers : OffersLiteral "C" "zone" (integerChars 4294967297)
      (offerText "C" "zone" 4294967297) :=
    offersLiteral_offerText (Spells.plain rfl) (Spells.plain rfl) _
  have verdict : IntegerVerdict "C" .zone 4294967297
      (.error (.unfit "C" .zone (.outOfRange 4294967297))) :=
    .outOfRange (by decide) (by decide) (by decide)
  have isInteger : IntegerLiteral (integerChars 4294967297) 4294967297 :=
    integerLiteral_iff.mpr rfl
  have named : Enumeration.itemName GameTag.zone = upperCase "zone" := by decide
  have notText : GameTag.kind .zone ≠ .scalar .string := by decide
  obtain ⟨isVerdict, _, _⟩ := parse_offered_integer offers isInteger named notText
  exact ⟨offers, (isVerdict _).mpr verdict⟩

/-- The largest finite double. -/
def largestDouble : Nat :=
  Nat.pow 2 1024 - Nat.pow 2 971

/-- The first 17 digits of the largest finite double, the others being zeros. -/
def nearLargestDouble : Nat :=
  17976931348623157 * Nat.pow 10 292

/-- An integer that some finite double exceeds can make a document malformed. -/
theorem parse_offered_nearLargestDouble :
    2 ^ 64 ≤ nearLargestDouble ∧ nearLargestDouble ≤ largestDouble ∧
      OffersLiteral "C" "power" (integerChars nearLargestDouble)
        (offerText "C" "power" nearLargestDouble) ∧
      parse (offerText "C" "power" nearLargestDouble) = .error .malformed := by
  have offers : OffersLiteral "C" "power" (integerChars nearLargestDouble)
      (offerText "C" "power" nearLargestDouble) :=
    offersLiteral_offerText (Spells.plain rfl) (Spells.plain rfl) _
  have large : Numeral.hugeMagnitude ≤ (nearLargestDouble : Int).natAbs := by
    rw [Int.natAbs_natCast]
    decide +kernel
  refine ⟨by decide +kernel, by decide +kernel, offers, ?_⟩
  exact parse_eq_of_reads (.malformed (offers.parse?_integer (.huge large)))

end Database

end CardCodex
