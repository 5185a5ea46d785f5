/-
Module: CardCodex.Proofs.SummaryColumns
Purpose: What a summary tells of its card.  Every column after the id can be read back: no
  column of an item holds a space, a quotation ends only at its closing quote, and the number
  of tags is all that is left.  So cards with one id are summed up alike just when they have
  the same type, tribe, name and number of tags.
Main exports: readShown?, readShown?_escapeChar, quotation_inj, column_inj,
  Card.toList_summary, Card.summary_eq_iff
-/
import CardCodex.Proofs.JsonStrings
import CardCodex.Proofs.Reachable
import CardCodex.Proofs.SummaryLines

namespace CardCodex

/-! ### Characters inside quotes -/

/-- The number that hexadecimal digits denote. -/
def hexNumber (digits : List Char) : Nat :=
  digits.foldl (fun number digit => 16 * number + (hexValue? digit).getD 0) 0

theorem hexNumber_append_singleton (digits : List Char) (digit : Char) :
    hexNumber (digits ++ [digit]) = 16 * hexNumber digits + (hexValue? digit).getD 0 := by
  rw [hexNumber, List.foldl_append, ← hexNumber]
  rfl

/-- The hexadecimal digits of a number denote it. -/
theorem hexNumber_toDigits (n : Nat) : hexNumber (Nat.toDigits 16 n) = n := by
  induction n using Nat.strongRecOn with
  | ind n inductionHypothesis =>
      by_cases small : n < 16
      · rw [Nat.toDigits_of_lt_base small, ← List.nil_append [n.digitChar],
          hexNumber_append_singleton, hexValue?_digitChar n small]
        exact Nat.zero_add n
      · have last : n % 16 < 16 := Nat.mod_lt n (by decide)
        have earlier := inductionHypothesis (n / 16) (by omega)
        rw [Nat.toDigits_of_base_le (by decide) (by omega), hexNumber_append_singleton, earlier,
          hexValue?_digitChar _ last, Option.getD_some]
        omega

/-- The character that a letter after a backslash stands for. -/
def shownLetter? (letter : Char) : Option Char :=
  if letter = '0' then some '\x00'
  else if letter = 't' then some '\t'
  else if letter = 'n' then some '\n'
  else if letter = 'r' then some '\r'
  else if letter = '"' then some '"'
  else if letter = '\\' then some '\\'
  else none

/-- The first character that is shown inside quotes, and what comes after it; none where the
quotation ends. -/
def readShown? : List Char → Option (Char × List Char)
  | [] => none
  | '"' :: _ => none
  | '\\' :: 'u' :: '\x7b' :: text =>
      let digits := text.takeWhile (· != '\x7d')
      some (Char.ofNat (hexNumber digits), text.drop (digits.length + 1))
  | '\\' :: letter :: text => (shownLetter? letter).map fun meant => (meant, text)
  | c :: text => some (c, text)

theorem readShown?_plain {c : Char} (noQuote : c ≠ '"') (noBackslash : c ≠ '\\')
    (text : List Char) : readShown? (c :: text) = some (c, text) := by
  unfold readShown?
  split
  · next impossible => cases impossible
  · next quote => exact absurd (List.cons.inj quote).1 noQuote
  · next backslash => exact absurd (List.cons.inj backslash).1 noBackslash
  · next backslash => exact absurd (List.cons.inj backslash).1 noBackslash
  · next same =>
      obtain ⟨rfl, rfl⟩ := List.cons.inj same
      rfl

theorem readShown?_code (c : Char) (text : List Char) :
    readShown? ('\\' :: 'u' :: '\x7b' :: (Nat.toDigits 16 c.toNat ++ '\x7d' :: text)) =
      some (c, text) := by
  have noBrace : ∀ digit ∈ Nat.toDigits 16 c.toNat, (digit != '\x7d') = true := by
    intro digit member
    have isHexDigit : ∀ value < 16, (Nat.digitChar value != '\x7d') = true := by decide
    obtain ⟨value, small, rfl⟩ := exists_digit_of_mem_toDigits (by decide) member
    exact isHexDigit value small
  have digits : (Nat.toDigits 16 c.toNat ++ '\x7d' :: text).takeWhile (· != '\x7d') =
      Nat.toDigits 16 c.toNat := by
    rw [List.takeWhile_append_of_pos noBrace]
    simp
  simp [readShown?, digits, hexNumber_toDigits, Char.ofNat_toNat]

/-- A character is read back from what is shown for it, whatever comes after it. -/
theorem readShown?_escapeChar (c : Char) (text : List Char) :
    readShown? (escapeChar c ++ text) = some (c, text) := by
  by_cases short : c ∈ ['\x00', '\t', '\n', '\r', '"', '\\']
  · simp only [List.mem_cons, List.not_mem_nil, or_false] at short
    rcases short with rfl | rfl | rfl | rfl | rfl | rfl <;> rfl
  · simp only [List.mem_cons, List.not_mem_nil, or_false, not_or] at short
    obtain ⟨noNull, noTab, noLineFeed, noReturn, noQuote, noBackslash⟩ := short
    rw [escapeChar, if_neg noNull, if_neg noTab, if_neg noLineFeed, if_neg noReturn,
      if_neg noQuote, if_neg noBackslash]
    split
    · exact readShown?_plain noQuote noBackslash text
    · simpa using readShown?_code c text

/-- A quotation tells its content and where it ends. -/
theorem quotation_inj {first second rest other : List Char}
    (same : first.flatMap escapeChar ++ '"' :: rest =
      second.flatMap escapeChar ++ '"' :: other) : first = second ∧ rest = other := by
  induction first generalizing second with
  | nil =>
      cases second with
      | nil => exact ⟨rfl, List.tail_eq_of_cons_eq same⟩
      | cons d second =>
          have read := congrArg readShown? same
          rw [List.flatMap_cons, List.append_assoc, readShown?_escapeChar] at read
          cases read
  | cons c first inductionHypothesis =>
      have read := congrArg readShown? same
      rw [List.flatMap_cons, List.append_assoc, readShown?_escapeChar] at read
      cases second with
      | nil => cases read
      | cons d second =>
          rw [List.flatMap_cons, List.append_assoc, readShown?_escapeChar] at read
          obtain ⟨rfl, sameRest⟩ := Prod.mk.inj (Option.some.inj read)
          obtain ⟨rfl, restEq⟩ := inductionHypothesis sameRest
          exact ⟨rfl, restEq⟩

/-! ### Columns of items -/

section Columns

variable {id : EnumId}

theorem space_not_mem_columnName (item? : Option id.Item) : ' ' ∉ (columnName item?).toList := by
  cases item? with
  | none => exact (by decide : ' ' ∉ "-".toList)
  | some item => exact EnumId.not_mem_itemName item rfl

/-- The mark for a missing item is the name of none. -/
theorem columnName_injective {first second : Option id.Item}
    (same : columnName first = columnName second) : first = second := by
  have noMark (item : id.Item) : Enumeration.itemName item ≠ "-" := by
    intro isMark
    have noDash := EnumId.not_mem_itemName item (c := '-') rfl
    rw [isMark] at noDash
    exact noDash (by decide)
  cases first with
  | none =>
      cases second with
      | none => rfl
      | some item => exact absurd same.symm (noMark item)
  | some item =>
      cases second with
      | none => exact absurd same (noMark item)
      | some other => exact congrArg some (Enumeration.itemName_injective same)

/-- Texts without a separator are told apart by what stands before the first one. -/
theorem append_separator_inj {separator : Char} {first second rest other : List Char}
    (noneInFirst : separator ∉ first) (noneInSecond : separator ∉ second)
    (same : first ++ separator :: rest = second ++ separator :: other) :
    first = second ∧ rest = other := by
  have before {text after : List Char} (noneInText : separator ∉ text) :
      (text ++ separator :: after).takeWhile (· != separator) = text := by
    have each : ∀ c ∈ text, (c != separator) = true := by
      intro c member
      rw [bne_iff_ne]
      rintro rfl
      exact noneInText member
    rw [List.takeWhile_append_of_pos each]
    simp
  have sameText := congrArg (List.takeWhile (· != separator)) same
  rw [before noneInFirst, before noneInSecond] at sameText
  subst sameText
  exact ⟨rfl, List.tail_eq_of_cons_eq (List.append_cancel_left same)⟩

theorem toList_padRight_space (width : Nat) (text : String) (rest : List Char) :
    (padRight width text).toList ++ ' ' :: rest =
      text.toList ++ ' ' :: (List.replicate (width - text.length) ' ' ++ rest) := by
  rw [padRight, String.toList_append, String.toList_ofList, List.append_assoc,
    List.append_cons _ ' ' rest, ← List.replicate_succ', List.replicate_succ, List.cons_append]

/-- A column tells its item, and what comes after it. -/
theorem column_inj (id : EnumId) {first second : Option id.Item} {width : Nat}
    {rest other : List Char}
    (same : (padRight width (columnName first)).toList ++ ' ' :: rest =
      (padRight width (columnName second)).toList ++ ' ' :: other) :
    first = second ∧ rest = other := by
  rw [toList_padRight_space, toList_padRight_space] at same
  obtain ⟨sameName, sameRest⟩ :=
    append_separator_inj (space_not_mem_columnName first) (space_not_mem_columnName second) same
  obtain rfl := columnName_injective (String.toList_injective sameName)
  exact ⟨rfl, List.append_cancel_left sameRest⟩

end Columns

/-! ### Summaries -/

namespace Card

/-- What a summary has after the opening quote of the name. -/
def summaryEnd (card : Card) : List Char :=
  (card.name?.getD "").toList.flatMap escapeChar ++
    '"' :: ' ' :: '(' :: (integerChars card.tags.size ++ " tags)".toList)

theorem toList_summary (card : Card) :
    card.summary.toList =
      (padRight 24 card.id).toList ++ ' ' ::
        ((padRight 8 (columnName card.cardType?)).toList ++ ' ' ::
          ((padRight 10 (columnName card.tribe?)).toList ++ ' ' :: '"' :: card.summaryEnd)) := by
  simp [summary, summaryEnd, quoted, writtenInteger]

/-- The end of a summary tells the name and the number of tags. -/
theorem summaryEnd_inj {first second : Card} (same : first.summaryEnd = second.summaryEnd) :
    first.name?.getD "" = second.name?.getD "" ∧ first.tags.size = second.tags.size := by
  obtain ⟨sameName, sameCount⟩ := quotation_inj same
  have sameDigits : integerChars first.tags.size = integerChars second.tags.size := by
    simpa using sameCount
  exact ⟨String.toList_injective sameName,
    Int.ofNat_inj.mp (integerChars_injective sameDigits)⟩

/-- Cards with one id have the same summary just when they have the same type, the same tribe,
the same name and the same number of tags.  A missing name counts as the empty one. -/
theorem summary_eq_iff {first second : Card} (sameId : first.id = second.id) :
    first.summary = second.summary ↔
      first.cardType? = second.cardType? ∧ first.tribe? = second.tribe? ∧
        first.name?.getD "" = second.name?.getD "" ∧ first.tags.size = second.tags.size := by
  constructor
  · intro same
    have sameChars := congrArg String.toList same
    rw [toList_summary, toList_summary, sameId] at sameChars
    have afterId := List.tail_eq_of_cons_eq (List.append_cancel_left sameChars)
    obtain ⟨sameType, afterType⟩ := column_inj .cardType afterId
    obtain ⟨sameTribe, afterTribe⟩ := column_inj .tribe afterType
    exact ⟨sameType, sameTribe, summaryEnd_inj (List.tail_eq_of_cons_eq afterTribe)⟩
  · rintro ⟨sameType, sameTribe, sameName, sameCount⟩
    rw [summary, summary, sameId, sameType, sameTribe, sameName, sameCount]

/-- A card without a name. -/
def unnamed : Card :=
  (blank "Scout").attempt .power (.int 1)

/-- A card with the empty name. -/
def emptyNamed : Card :=
  (blank "Scout").attempt .name (.text "")

/-- A card whose name looks like the end of a summary. -/
def forged : Card :=
  (blank "Scout").attempt .name (.text "\" (1 tags)")

theorem summary_eq_iff_emptyNamed :
    unnamed.Reachable ∧ emptyNamed.Reachable ∧ forged.Reachable ∧
      unnamed.id = emptyNamed.id ∧ unnamed.summary = emptyNamed.summary ∧
      forged.id = emptyNamed.id ∧ forged.summary ≠ emptyNamed.summary := by
  have sameFields : unnamed.cardType? = emptyNamed.cardType? ∧
      unnamed.tribe? = emptyNamed.tribe? ∧
      unnamed.name?.getD "" = emptyNamed.name?.getD "" ∧
      unnamed.tags.size = emptyNamed.tags.size := by decide
  have otherName : forged.name?.getD "" ≠ emptyNamed.name?.getD "" := by decide
  have sameId : forged.id = emptyNamed.id := rfl
  refine ⟨.attempt (.blank _) _ _, .attempt (.blank _) _ _, .attempt (.blank _) _ _, rfl,
    (summary_eq_iff rfl).mpr sameFields, sameId, ?_⟩
  intro same
  exact otherName ((summary_eq_iff sameId).mp same).2.2.1

end Card

end CardCodex
