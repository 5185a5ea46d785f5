/-
Module: CardCodex.Proofs.SummaryLines
Purpose: How many lines a summary takes.  The id of a card is shown as it is and every other
  column in legible characters, so a summary breaks where the id breaks and nowhere else.
Main exports: lineFeeds, lineFeeds_quoted, Card.lineFeeds_summary, runCommandLine_check,
  lineFeeds_stdout_check, lines_break_with_ids
-/
import Mathlib.Algebra.GroupWithZero.Nat
import CardCodex.Proofs.CommandLine
import CardCodex.Proofs.Decimal

namespace CardCodex

/-- The number of line feeds in a text. -/
def lineFeeds (text : String) : Nat :=
  text.toList.count '\n'

theorem lineFeeds_append (first second : String) :
    lineFeeds (first ++ second) = lineFeeds first + lineFeeds second := by
  rw [lineFeeds, String.toList_append, List.count_append, lineFeeds, lineFeeds]

theorem lineFeeds_eq_zero_iff {text : String} : lineFeeds text = 0 ↔ '\n' ∉ text.toList :=
  List.count_eq_zero

/-! ### The columns of a summary -/

theorem lineFeeds_padRight (width : Nat) (text : String) :
    lineFeeds (padRight width text) = lineFeeds text := by
  have filler : lineFeeds (String.ofList (List.replicate (width - text.length) ' ')) = 0 := by
    rw [lineFeeds_eq_zero_iff, String.toList_ofList]
    intro member
    cases List.eq_of_mem_replicate member
  rw [padRight, lineFeeds_append, filler, Nat.add_zero]

theorem lineFeeds_itemName {id : EnumId} (item : id.Item) :
    lineFeeds (Enumeration.itemName item) = 0 :=
  lineFeeds_eq_zero_iff.mpr (EnumId.not_mem_itemName item rfl)

theorem lineFeeds_columnName {id : EnumId} (item? : Option id.Item) :
    lineFeeds (columnName item?) = 0 := by
  cases item? with
  | none => exact (by decide : lineFeeds "-" = 0)
  | some item => exact lineFeeds_itemName item

theorem lineFeeds_writtenInteger (n : Int) : lineFeeds (writtenInteger n) = 0 := by
  rw [lineFeeds_eq_zero_iff, writtenInteger, String.toList_ofList]
  exact not_mem_integerChars n rfl

/-- The digits of a number in a base are among the digits of that base. -/
theorem exists_digit_of_mem_toDigits {base n : Nat} (atLeastTwo : 1 < base) {c : Char}
    (member : c ∈ Nat.toDigits base n) : ∃ digit < base, c = Nat.digitChar digit := by
  induction n using Nat.strongRecOn with
  | ind n inductionHypothesis =>
      by_cases small : n < base
      · rw [Nat.toDigits_of_lt_base small] at member
        exact ⟨n, small, List.mem_singleton.mp member⟩
      · have large : base ≤ n := Nat.le_of_not_lt small
        rw [Nat.toDigits_of_base_le atLeastTwo large] at member
        rcases List.mem_append.mp member with earlier | last
        · exact inductionHypothesis (n / base) (Nat.div_lt_self (by omega) atLeastTwo) earlier
        · exact ⟨n % base, Nat.mod_lt n (by omega), List.mem_singleton.mp last⟩

/-- No character is shown as a line feed inside quotes, a line feed included. -/
theorem lineFeed_not_mem_escapeChar (c : Char) : '\n' ∉ escapeChar c := by
  unfold escapeChar
  split
  · decide
  split
  · decide
  split
  · decide
  split
  · decide
  split
  · decide
  split
  · decide
  split
  · next _ _ notLineFeed _ _ _ _ =>
      intro member
      exact notLineFeed (List.mem_singleton.mp member).symm
  · simp only [List.mem_append, not_or]
    refine ⟨⟨by decide, ?_⟩, by decide⟩
    intro member
    obtain ⟨digit, small, isDigit⟩ := exists_digit_of_mem_toDigits (by decide) member
    have noDigit : ∀ digit < 16, '\n' ≠ Nat.digitChar digit := by decide
    exact noDigit digit small isDigit

theorem lineFeeds_quoted (text : String) : lineFeeds (quoted text) = 0 := by
  rw [lineFeeds_eq_zero_iff, quoted, String.toList_ofList]
  simp only [List.cons_append, List.mem_cons, List.mem_append, List.mem_flatMap, not_or]
  refine ⟨by decide, ?_, by decide, List.not_mem_nil⟩
  rintro ⟨c, _, member⟩
  exact lineFeed_not_mem_escapeChar c member

/-- A summary breaks as often as the id of its card does. -/
theorem Card.lineFeeds_summary (card : Card) : lineFeeds card.summary = lineFeeds card.id := by
  have space : lineFeeds " " = 0 := by decide
  have opening : lineFeeds " (" = 0 := by decide
  have closing : lineFeeds " tags)" = 0 := by decide
  have cardType : lineFeeds (columnName card.cardType?) = 0 :=
    @lineFeeds_columnName .cardType card.cardType?
  have tribe : lineFeeds (columnName card.tribe?) = 0 :=
    @lineFeeds_columnName .tribe card.tribe?
  simp only [summary, lineFeeds_append, lineFeeds_padRight, space, opening, closing, cardType,
    tribe, lineFeeds_quoted, lineFeeds_writtenInteger, Nat.add_zero]

/-! ### The lines of a check -/

theorem lineFeeds_textOfLines (lines : List String) :
    lineFeeds (textOfLines lines) = (lines.map lineFeeds).sum + lines.length := by
  induction lines with
  | nil => rfl
  | cons line rest inductionHypothesis =>
      have ending : lineFeeds "\n" = 1 := by decide
      rw [textOfLines_cons, lineFeeds_append, lineFeeds_append, inductionHypothesis, ending,
        List.map_cons, List.sum_cons, List.length_cons]
      omega

section Check

variable {files : String → FileContent} {path text : String} {bytes : ByteArray}
  {database : Database}

/-- A check of a document that is accepted prints a summary for each card and their number. -/
theorem runCommandLine_check (found : files path = .ok bytes)
    (decoded : String.fromUTF8? bytes = some text) (accepted : Database.parse text = .ok database) :
    runCommandLine files ["cards", path] =
      { status := 0
        stdout := textOfLines (database.cards.toList.map Card.summary ++
            [writtenInteger database.size ++ " cards OK"])
        stderr := "" } := by
  have readable : (files path).text = .ok text :=
    FileContent.text_eq_ok_iff.mpr ⟨bytes, found, decoded⟩
  have asked : Command.ofArguments ["cards", path] = .ok (.check path) := rfl
  exact runCommandLine_of_command asked (run_checkCards readable accepted)

/-- A check prints a line for each card and a last one, and one more for each line feed in an
id. -/
theorem lineFeeds_stdout_check (found : files path = .ok bytes)
    (decoded : String.fromUTF8? bytes = some text) (accepted : Database.parse text = .ok database) :
    lineFeeds (runCommandLine files ["cards", path]).stdout =
      (database.ids.map lineFeeds).sum + (database.size + 1) := by
  have summaries : (database.cards.toList.map Card.summary).map lineFeeds =
      database.ids.map lineFeeds := by
    rw [Database.ids, List.map_map, List.map_map]
    apply List.map_congr_left
    intro card _
    rw [Function.comp_apply, Function.comp_apply, card.lineFeeds_summary]
  have last : lineFeeds (writtenInteger database.size ++ " cards OK") = 0 := by
    rw [lineFeeds_append, lineFeeds_writtenInteger]
    decide
  rw [runCommandLine_check found decoded accepted, lineFeeds_textOfLines, List.map_append,
    summaries, List.sum_append, List.map_singleton, last, List.length_append, List.length_map,
    Array.length_toList]
  rfl

/-- The lines of a check are one for each card and a last one just when no id of the document
has a line feed. -/
theorem lineFeeds_stdout_check_eq_iff (found : files path = .ok bytes)
    (decoded : String.fromUTF8? bytes = some text) (accepted : Database.parse text = .ok database) :
    lineFeeds (runCommandLine files ["cards", path]).stdout = database.size + 1 ↔
      ∀ id ∈ Database.documentIds text, '\n' ∉ id.toList := by
  have feedless : (database.ids.map lineFeeds).sum = 0 ↔
      ∀ id ∈ Database.documentIds text, '\n' ∉ id.toList := by
    simp only [List.sum_eq_zero_iff_forall_eq_nat, List.forall_mem_map, lineFeeds_eq_zero_iff,
      Database.ids_of_parse accepted, List.mem_eraseDups]
  rw [lineFeeds_stdout_check found decoded accepted, ← feedless]
  omega

end Check

/-- A summary breaks where the id of its card does and nowhere else.  A check prints a line
for each card, a last one, and one more for each line feed in an id. -/
theorem lines_break_with_ids (card : Card) (files : String → FileContent) (path : String) :
    lineFeeds card.summary = lineFeeds card.id ∧
      ∀ bytes text database, files path = .ok bytes → String.fromUTF8? bytes = some text →
        Database.parse text = .ok database →
          lineFeeds (runCommandLine files ["cards", path]).stdout =
              (database.ids.map lineFeeds).sum + (database.size + 1) ∧
            (lineFeeds (runCommandLine files ["cards", path]).stdout = database.size + 1 ↔
              ∀ id ∈ Database.documentIds text, '\n' ∉ id.toList) := by
  refine ⟨card.lineFeeds_summary, ?_⟩
  intro bytes text database found decoded accepted
  exact ⟨lineFeeds_stdout_check found decoded accepted,
    lineFeeds_stdout_check_eq_iff found decoded accepted⟩

namespace Database

/-- A document with one card, whose id has a line feed. -/
def brokenId : String :=
  "\x7b\"a\\nb\": \x7b\x7d\x7d"

theorem parse_brokenId : parse brokenId = .ok (empty.insert (.blank "a\nb")) :=
  rfl

theorem lines_break_with_ids_brokenId :
    lineFeeds (Card.blank "a\nb").summary = lineFeeds "a\nb" ∧
      ∃ database, parse brokenId = .ok database ∧
        lineFeeds (runCommandLine (fun _ => .ok brokenId.toUTF8) ["cards", "deck"]).stdout =
          (database.ids.map lineFeeds).sum + (database.size + 1) := by
  have decoded : String.fromUTF8? brokenId.toUTF8 = some brokenId := by decide +kernel
  obtain ⟨summary, check⟩ :=
    lines_break_with_ids (Card.blank "a\nb") (fun _ => .ok brokenId.toUTF8) "deck"
  exact ⟨summary, _, parse_brokenId, (check _ _ _ rfl decoded parse_brokenId).1⟩

/-- The summary of an accepted card can take two lines, and the check of its document three. -/
theorem brokenId_not_oneLine :
    parse brokenId = .ok (empty.insert (.blank "a\nb")) ∧
      '\n' ∈ (Card.blank "a\nb").summary.toList ∧
      (empty.insert (.blank "a\nb")).size = 1 ∧
      lineFeeds (runCommandLine (fun _ => .ok brokenId.toUTF8) ["cards", "deck"]).stdout = 3 := by
  refine ⟨parse_brokenId, by decide, rfl, ?_⟩
  have decoded : String.fromUTF8? brokenId.toUTF8 = some brokenId := by decide +kernel
  rw [lineFeeds_stdout_check rfl decoded parse_brokenId]
  decide

end Database

end CardCodex
