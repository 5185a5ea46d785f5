/-
Module: CardCodex.Proofs.Decimal
Purpose: Which integer a text denotes, said digit by digit: one sign may stand before the
  digits and blanks around them.  The readers of integers and words accept just these texts,
  and a written integer denotes itself.
Main exports: DigitsDenote, digitsDenote_iff, SignedDenotes, readInteger?_eq_some_iff, Denotes,
  readWord?_eq_some_iff, readWord?_eq_none_iff, integerChars_injective
-/
import Mathlib.Data.List.Induction
import CardCodex.Proofs.Numerals

namespace CardCodex

/-! ### Digits -/

/-- The number that ASCII digits denote, of which there is at least one.  The last digit
counts once and the number before it ten times. -/
inductive DigitsDenote : List Char → Nat → Prop where
  | single {digit : Nat} (small : digit < 10) : DigitsDenote [digit.digitChar] digit
  | snoc {digits : List Char} {n digit : Nat} (earlier : DigitsDenote digits n)
      (small : digit < 10) : DigitsDenote (digits ++ [digit.digitChar]) (10 * n + digit)

theorem isDigit_iff {c : Char} : c.isDigit = true ↔ ∃ digit < 10, c = Nat.digitChar digit := by
  constructor
  · intro isDigit
    have bounds : 48 ≤ c.toNat ∧ c.toNat ≤ 57 := Char.isDigit_iff_toNat.mp isDigit
    refine ⟨c.toNat - 48, by omega, ?_⟩
    apply Char.toNat_inj.mp
    rw [Nat.toNat_digitChar_of_lt_ten (by omega)]
    omega
  · rintro ⟨digit, small, rfl⟩
    rw [Nat.isDigit_digitChar, decide_eq_true small]

theorem ofDigitChars_append_digitChar (digits : List Char) {digit : Nat} (small : digit < 10) :
    Nat.ofDigitChars 10 (digits ++ [digit.digitChar]) 0 =
      10 * Nat.ofDigitChars 10 digits 0 + digit := by
  have worth : (Nat.digitChar digit).toNat - '0'.toNat = digit :=
    Nat.toNat_digitChar_sub_48_of_lt_ten small
  rw [Nat.ofDigitChars_append, Nat.ofDigitChars_cons, worth]
  rfl

/-- One or more digits denote the number that is accumulated from the left. -/
theorem digitsDenote_iff {digits : List Char} {n : Nat} :
    DigitsDenote digits n ↔
      digits ≠ [] ∧ (∀ c ∈ digits, c.isDigit = true) ∧ Nat.ofDigitChars 10 digits 0 = n := by
  constructor
  · intro denotes
    induction denotes with
    | @single digit small =>
        have worth := ofDigitChars_append_digitChar [] small
        refine ⟨List.cons_ne_nil _ _, ?_, worth.trans (Nat.zero_add digit)⟩
        intro c member
        rw [List.mem_singleton.mp member]
        exact isDigit_iff.mpr ⟨digit, small, rfl⟩
    | @snoc digits n digit _ small inductionHypothesis =>
        rcases inductionHypothesis with ⟨_, allDigits, rfl⟩
        refine ⟨by simp, ?_, ofDigitChars_append_digitChar digits small⟩
        intro c member
        rcases List.mem_append.mp member with earlier | last
        · exact allDigits c earlier
        · rw [List.mem_singleton.mp last]
          exact isDigit_iff.mpr ⟨digit, small, rfl⟩
  · rintro ⟨nonempty, allDigits, rfl⟩
    induction digits using List.reverseRecOn with
    | nil => exact absurd rfl nonempty
    | append_singleton digits c inductionHypothesis =>
        rw [List.forall_mem_append] at allDigits
        rcases isDigit_iff.mp (allDigits.2 c List.mem_cons_self) with ⟨digit, small, rfl⟩
        rw [ofDigitChars_append_digitChar digits small]
        by_cases first : digits = []
        · subst first
          simpa using DigitsDenote.single small
        · exact .snoc (inductionHypothesis first allDigits.1) small

theorem readDigits?_eq_some_iff {digits : List Char} {n : Nat} :
    readDigits? digits = some n ↔ DigitsDenote digits n := by
  have accepts : (!digits.isEmpty && digits.all Char.isDigit) = true ↔
      digits ≠ [] ∧ ∀ c ∈ digits, c.isDigit = true := by
    simp
  rw [readDigits?, digitsDenote_iff, ← and_assoc, ← accepts]
  split
  · next accepted => rw [Option.some_inj, accepted, eq_self, true_and]
  · next refused => simp [refused]

theorem digitsDenote_toDigits (n : Nat) : DigitsDenote (Nat.toDigits 10 n) n :=
  digitsDenote_iff.mpr
    ⟨Nat.toDigits_ne_nil, isDigit_of_mem_toDigits, Nat.ofDigitChars_ten_toDigits⟩

/-- Digits do not start with a character that is no digit. -/
theorem DigitsDenote.ne_cons {digits : List Char} {n : Nat} (denotes : DigitsDenote digits n)
    {first : Char} (noDigit : first.isDigit = false) (rest : List Char) :
    digits ≠ first :: rest := by
  rintro rfl
  have isDigit := (digitsDenote_iff.mp denotes).2.1 first List.mem_cons_self
  rw [noDigit] at isDigit
  cases isDigit

/-! ### Signs -/

/-- The integer that digits denote with an optional sign before them. -/
inductive SignedDenotes : List Char → Int → Prop where
  | unsigned {digits : List Char} {n : Nat} (denotes : DigitsDenote digits n) :
      SignedDenotes digits n
  | plus {digits : List Char} {n : Nat} (denotes : DigitsDenote digits n) :
      SignedDenotes ('+' :: digits) n
  | minus {digits : List Char} {n : Nat} (denotes : DigitsDenote digits n) :
      SignedDenotes ('-' :: digits) (-n)

theorem readInteger?_minus (digits : List Char) :
    readInteger? ('-' :: digits) = (readDigits? digits).map fun n : Nat => -(n : Int) := by
  rw [readInteger?]
  cases readDigits? digits <;> rfl

theorem readInteger?_plus (digits : List Char) :
    readInteger? ('+' :: digits) = (readDigits? digits).map fun n : Nat => (n : Int) := by
  rw [readInteger?]
  cases readDigits? digits <;> rfl

theorem readInteger?_unsigned {digits : List Char} (noMinus : ∀ rest, digits ≠ '-' :: rest)
    (noPlus : ∀ rest, digits ≠ '+' :: rest) :
    readInteger? digits = (readDigits? digits).map fun n : Nat => (n : Int) := by
  unfold readInteger?
  split
  · next rest => exact absurd rfl (noMinus rest)
  · next rest => exact absurd rfl (noPlus rest)
  · cases readDigits? digits <;> rfl

/-- The reader of integers accepts an optional sign and digits. -/
theorem readInteger?_eq_some_iff {text : List Char} {n : Int} :
    readInteger? text = some n ↔ SignedDenotes text n := by
  constructor
  · intro read
    by_cases minus : ∃ digits, text = '-' :: digits
    · obtain ⟨digits, rfl⟩ := minus
      rw [readInteger?_minus] at read
      obtain ⟨m, digitsRead, rfl⟩ := Option.map_eq_some_iff.mp read
      exact .minus (readDigits?_eq_some_iff.mp digitsRead)
    by_cases plus : ∃ digits, text = '+' :: digits
    · obtain ⟨digits, rfl⟩ := plus
      rw [readInteger?_plus] at read
      obtain ⟨m, digitsRead, rfl⟩ := Option.map_eq_some_iff.mp read
      exact .plus (readDigits?_eq_some_iff.mp digitsRead)
    rw [readInteger?_unsigned (not_exists.mp minus) (not_exists.mp plus)] at read
    obtain ⟨m, digitsRead, rfl⟩ := Option.map_eq_some_iff.mp read
    exact .unsigned (readDigits?_eq_some_iff.mp digitsRead)
  · intro signed
    cases signed with
    | minus denotes =>
        rw [readInteger?_minus, readDigits?_eq_some_iff.mpr denotes, Option.map_some]
    | plus denotes =>
        rw [readInteger?_plus, readDigits?_eq_some_iff.mpr denotes, Option.map_some]
    | unsigned denotes =>
        rw [readInteger?_unsigned (denotes.ne_cons (by decide)) (denotes.ne_cons (by decide)),
          readDigits?_eq_some_iff.mpr denotes, Option.map_some]

theorem SignedDenotes.functional {text : List Char} {first second : Int}
    (denotesFirst : SignedDenotes text first) (denotesSecond : SignedDenotes text second) :
    first = second := by
  rw [← readInteger?_eq_some_iff] at denotesFirst denotesSecond
  exact Option.some.inj (denotesFirst.symm.trans denotesSecond)

/-- A written integer denotes itself. -/
theorem signedDenotes_integerChars (n : Int) : SignedDenotes (integerChars n) n := by
  have digits := digitsDenote_toDigits n.natAbs
  rw [integerChars]
  split
  · next negative =>
      have minus := SignedDenotes.minus digits
      rw [show -(n.natAbs : Int) = n by omega] at minus
      exact minus
  · next notNegative =>
      have unsigned := SignedDenotes.unsigned digits
      rw [show (n.natAbs : Int) = n by omega] at unsigned
      exact unsigned

theorem integerChars_injective {first second : Int}
    (same : integerChars first = integerChars second) : first = second := by
  have denotes := signedDenotes_integerChars first
  rw [same] at denotes
  exact denotes.functional (signedDenotes_integerChars second)

/-- The characters of a written integer are those of atoms. -/
theorem not_mem_integerChars {c : Char} (n : Int) (noAtomChar : isAtomChar c = false) :
    c ∉ integerChars n := by
  intro member
  rw [isAtomChar_of_mem_integerChars c member] at noAtomChar
  cases noAtomChar

/-! ### Blanks -/

/-- The integer that a text denotes: blanks stand around a sign and digits. -/
inductive Denotes : List Char → Int → Prop where
  | intro {before core after : List Char} {n : Int}
      (blankBefore : ∀ c ∈ before, isBlank c = true) (blankAfter : ∀ c ∈ after, isBlank c = true)
      (signed : SignedDenotes core n) : Denotes (before ++ core ++ after) n

/-- Blanks are trimmed from both ends, and nothing else is. -/
theorem exists_split_trimBlanks (text : List Char) :
    ∃ before after, text = before ++ trimBlanks text ++ after ∧
      (∀ c ∈ before, isBlank c = true) ∧ ∀ c ∈ after, isBlank c = true := by
  have blanks : ∀ part : List Char, ∀ c ∈ part.takeWhile isBlank, isBlank c = true :=
    fun part c member => List.mem_takeWhile_imp member
  let tail := text.dropWhile isBlank
  refine ⟨text.takeWhile isBlank, (tail.reverse.takeWhile isBlank).reverse, ?_, blanks text, ?_⟩
  · have tailEq : trimBlanks text ++ (tail.reverse.takeWhile isBlank).reverse = tail := by
      rw [trimBlanks, ← List.reverse_append, List.takeWhile_append_dropWhile, List.reverse_reverse]
    rw [List.append_assoc, tailEq, List.takeWhile_append_dropWhile]
  · intro c member
    exact blanks tail.reverse c (List.mem_reverse.mp member)

/-- Blanks around a text without blanks are trimmed. -/
theorem trimBlanks_surrounded {before core after : List Char}
    (blankBefore : ∀ c ∈ before, isBlank c = true) (blankAfter : ∀ c ∈ after, isBlank c = true)
    (noBlank : ∀ c ∈ core, isBlank c = false) (nonempty : core ≠ []) :
    trimBlanks (before ++ core ++ after) = core := by
  have stays : ∀ part rest : List Char, part ≠ [] → (∀ c ∈ part, isBlank c = false) →
      (part ++ rest).dropWhile isBlank = part ++ rest := by
    intro part rest partNonempty partNoBlank
    obtain ⟨first, others, rfl⟩ := List.exists_cons_of_ne_nil partNonempty
    rw [List.cons_append, List.dropWhile_cons_of_neg]
    simp [partNoBlank first List.mem_cons_self]
  have reversedNoBlank : ∀ c ∈ core.reverse, isBlank c = false := fun c member =>
    noBlank c (List.mem_reverse.mp member)
  have reversedAfter : ∀ c ∈ after.reverse, isBlank c = true := fun c member =>
    blankAfter c (List.mem_reverse.mp member)
  have reversedStays := stays core.reverse [] (by simpa using nonempty) reversedNoBlank
  rw [List.append_nil] at reversedStays
  rw [trimBlanks, List.append_assoc, List.dropWhile_append_of_pos blankBefore,
    stays core after nonempty noBlank, List.reverse_append,
    List.dropWhile_append_of_pos reversedAfter, reversedStays, List.reverse_reverse]

theorem isBlank_digitChar : ∀ digit < 10, isBlank (Nat.digitChar digit) = false := by
  decide

/-- A signed numeral has no blanks. -/
theorem SignedDenotes.isBlank_eq_false {core : List Char} {n : Int}
    (signed : SignedDenotes core n) : ∀ c ∈ core, isBlank c = false := by
  have ofDigits : ∀ {digits : List Char} {m : Nat}, DigitsDenote digits m →
      ∀ c ∈ digits, isBlank c = false := by
    intro digits m denotes c member
    rcases isDigit_iff.mp ((digitsDenote_iff.mp denotes).2.1 c member) with ⟨digit, small, rfl⟩
    exact isBlank_digitChar digit small
  cases signed with
  | unsigned denotes => exact ofDigits denotes
  | plus denotes => exact List.forall_mem_cons.mpr ⟨by decide, ofDigits denotes⟩
  | minus denotes => exact List.forall_mem_cons.mpr ⟨by decide, ofDigits denotes⟩

theorem SignedDenotes.ne_nil {core : List Char} {n : Int} (signed : SignedDenotes core n) :
    core ≠ [] := by
  cases signed with
  | unsigned denotes => exact (digitsDenote_iff.mp denotes).1
  | plus denotes => exact List.cons_ne_nil _ _
  | minus denotes => exact List.cons_ne_nil _ _

/-- A text denotes an integer when the reader finds one in it, trimmed. -/
theorem readInteger?_trimBlanks_eq_some_iff {text : List Char} {n : Int} :
    readInteger? (trimBlanks text) = some n ↔ Denotes text n := by
  rw [readInteger?_eq_some_iff]
  constructor
  · intro signed
    rcases exists_split_trimBlanks text with ⟨before, after, split, blankBefore, blankAfter⟩
    rw [split]
    exact .intro blankBefore blankAfter signed
  · intro denotes
    cases denotes with
    | intro blankBefore blankAfter signed =>
        rw [trimBlanks_surrounded blankBefore blankAfter signed.isBlank_eq_false signed.ne_nil]
        exact signed

/-- A word is read from the texts that denote it. -/
theorem readWord?_eq_some_iff {text : String} {value : Int32} :
    readWord? text = some value ↔ Denotes text.toList value.toInt := by
  rw [readWord?, Option.bind_eq_some_iff, ← readInteger?_trimBlanks_eq_some_iff]
  constructor
  · rintro ⟨n, read, isWord⟩
    rw [word?_eq_some_iff.mp isWord]
    exact read
  · intro read
    exact ⟨value.toInt, read, word?_eq_some_iff.mpr rfl⟩

/-- No word is read from a text that denotes no integer, or one out of range. -/
theorem readWord?_eq_none_iff {text : String} :
    readWord? text = none ↔
      ¬ ∃ n, Denotes text.toList n ∧ -2147483648 ≤ n ∧ n ≤ 2147483647 := by
  rw [readWord?, Option.bind_eq_none_iff]
  constructor
  · rintro noWord ⟨n, denotes, low, high⟩
    have outside := word?_eq_none_iff.mp
      (noWord n (readInteger?_trimBlanks_eq_some_iff.mpr denotes))
    omega
  · intro none n read
    apply word?_eq_none_iff.mpr
    by_contra inside
    have denotes := readInteger?_trimBlanks_eq_some_iff.mp read
    exact none ⟨n, denotes, by omega, by omega⟩

end CardCodex
