/-
Module: CardCodex.Proofs.Numerals
Purpose: Integers as words of 32 bits and as number literals: which integers have a word,
  and that a written integer is read back as it was.
Main exports: word?_eq_some_iff, word?_eq_none_iff, Numeral.isWhole_toDigits,
  atomValue?_integerChars
-/
import Mathlib.Algebra.Group.Int.Defs
import Mathlib.Data.List.TakeWhile
import CardCodex.Json.Token

namespace CardCodex

/-! ### Words -/

/-- An integer has the word that denotes it. -/
theorem word?_eq_some_iff {n : Int} {word : Int32} : word? n = some word ↔ word.toInt = n := by
  constructor
  · intro found
    unfold word? at found
    split at found
    · next range =>
        rw [← Option.some.inj found]
        exact Int32.toInt_ofInt_of_le range.1 (by omega)
    · cases found
  · rintro rfl
    have low := word.le_toInt
    have high := word.toInt_lt
    rw [word?, if_pos (by omega), Int32.ofInt_toInt]

/-- An integer has no word when it is out of range. -/
theorem word?_eq_none_iff {n : Int} :
    word? n = none ↔ n < -2147483648 ∨ 2147483647 < n := by
  rw [word?]
  split
  · simp only [reduceCtorEq, false_iff]
    omega
  · simp only [true_iff]
    omega

/-! ### Digits -/

theorem isDigit_of_mem_toDigits {n : Nat} : ∀ c ∈ Nat.toDigits 10 n, c.isDigit = true :=
  fun _ member => Nat.isDigit_of_mem_toDigits (by decide) (by decide) member

/-- The digits of a positive number do not start with a zero. -/
theorem head_toDigits_ne_zero {n : Nat} (positive : 0 < n) :
    ∃ first rest, Nat.toDigits 10 n = first :: rest ∧ first ≠ '0' := by
  induction n using Nat.strongRecOn with
  | ind n inductionHypothesis =>
      by_cases small : n < 10
      · refine ⟨n.digitChar, [], Nat.toDigits_of_lt_base small, ?_⟩
        have nonzero : ∀ digit < 10, 0 < digit → Nat.digitChar digit ≠ '0' := by decide
        exact nonzero n small positive
      · obtain ⟨first, rest, digits, nonzero⟩ :=
          inductionHypothesis (n / 10) (by omega) (by omega)
        refine ⟨first, rest ++ [(n % 10).digitChar], ?_, nonzero⟩
        rw [Nat.toDigits_of_base_le (by decide) (by omega), digits]
        rfl

namespace Numeral

theorem isWhole_toDigits (n : Nat) : isWhole (Nat.toDigits 10 n) = true := by
  rcases Nat.eq_zero_or_pos n with rfl | positive
  · rw [Nat.toDigits_zero]
    rfl
  · obtain ⟨first, rest, digits, nonzero⟩ := head_toDigits_ne_zero positive
    rw [digits]
    unfold isWhole
    split
    · next impossible => cases impossible
    · next zeroHead => exact absurd (List.cons.inj zeroHead).1 nonzero
    · rfl

/-- Plain digits are a literal without a fraction and without an exponent. -/
theorem ofUnsigned?_digits (negative : Bool) {digits : List Char}
    (allDigits : ∀ c ∈ digits, c.isDigit = true) (whole : isWhole digits = true) :
    ofUnsigned? negative digits = some ⟨negative, digits, [], [], []⟩ := by
  have taken : digits.takeWhile Char.isDigit = digits := List.takeWhile_eq_self_iff.mpr allDigits
  have dropped : digits.dropWhile Char.isDigit = [] := List.dropWhile_eq_nil_iff.mpr allDigits
  have fraction : splitFraction? [] = some ([], []) := rfl
  rw [ofUnsigned?, taken, dropped, fraction]
  change (if isWhole digits && true && true then _ else none) = _
  rw [whole]
  rfl

theorem ofChars?_integerChars (n : Int) :
    ofChars? (integerChars n) =
      some ⟨decide (n < 0), Nat.toDigits 10 n.natAbs, [], [], []⟩ := by
  have literal := fun negative =>
    ofUnsigned?_digits negative isDigit_of_mem_toDigits (isWhole_toDigits n.natAbs)
  by_cases negative : n < 0
  · simp [integerChars, negative, ofChars?, literal]
  · have noMinus : ∀ rest, Nat.toDigits 10 n.natAbs ≠ '-' :: rest := by
      intro rest startsWithMinus
      have digit : ('-' : Char).isDigit = true :=
        isDigit_of_mem_toDigits '-' (startsWithMinus ▸ List.mem_cons_self)
      cases digit
    simp only [integerChars, negative, if_false, List.nil_append, decide_false]
    unfold ofChars?
    split
    · next rest startsWithMinus => exact absurd startsWithMinus (noMinus rest)
    · exact literal false

/-- An integer of 64 bits is the value of its literal; any other literal is measured as a
float. -/
theorem value?_digits (n : Int) :
    value? ⟨decide (n < 0), Nat.toDigits 10 n.natAbs, [], [], []⟩ =
      if -2 ^ 63 ≤ n ∧ n < 2 ^ 64 then some (.integer n)
      else float? ⟨decide (n < 0), Nat.toDigits 10 n.natAbs, [], [], []⟩ := by
  have limit : wordLimit = 2 ^ 64 := rfl
  have magnitude : digitsValue (Nat.toDigits 10 n.natAbs) = n.natAbs :=
    Nat.ofDigitChars_ten_toDigits
  have plain : (([] : List Char).isEmpty && ([] : List Char).isEmpty) = true := rfl
  rw [value?, magnitude]
  dsimp only
  rw [if_pos plain]
  by_cases negative : n < 0
  · have fits : (n.natAbs != 0 && n.natAbs ≤ wordLimit / 2) = true ↔
        -2 ^ 63 ≤ n ∧ n < 2 ^ 64 := by
      rw [limit, Bool.and_eq_true, bne_iff_ne, decide_eq_true_eq]
      omega
    have denotes : -(n.natAbs : Int) = n := by omega
    rw [if_pos (decide_eq_true negative), if_congr fits rfl rfl, denotes]
  · have fits : n.natAbs < wordLimit ↔ -2 ^ 63 ≤ n ∧ n < 2 ^ 64 := by
      rw [limit]
      omega
    have denotes : (n.natAbs : Int) = n := by omega
    rw [if_neg (by simpa using negative), if_congr fits rfl rfl, denotes]

end Numeral

/-! ### Written integers -/

theorem isAtomChar_of_isDigit {c : Char} (digit : c.isDigit = true) : isAtomChar c = true := by
  simp [isAtomChar, Char.isAlphanum, digit]

/-- A written integer is one atom. -/
theorem isAtomChar_of_mem_integerChars {n : Int} :
    ∀ c ∈ integerChars n, isAtomChar c = true := by
  intro c member
  rw [integerChars, List.mem_append] at member
  rcases member with sign | digit
  · split at sign
    · rw [List.mem_singleton.mp sign]
      rfl
    · cases sign
  · exact isAtomChar_of_isDigit (isDigit_of_mem_toDigits c digit)

theorem integerChars_ne_nil (n : Int) : integerChars n ≠ [] := by
  simp [integerChars, Nat.toDigits_ne_nil]

/-- A written integer starts with a digit or with its sign. -/
theorem integerChars_ne_cons {n : Int} {first : Char} {rest : List Char}
    (noDigit : first.isDigit = false) (noSign : first ≠ '-') :
    integerChars n ≠ first :: rest := by
  intro starts
  have member : first ∈ integerChars n := starts ▸ List.mem_cons_self
  rw [integerChars, List.mem_append] at member
  rcases member with sign | digit
  · split at sign
    · exact noSign (List.mem_singleton.mp sign)
    · cases sign
  · rw [isDigit_of_mem_toDigits first digit] at noDigit
    cases noDigit

/-- A written integer is a number literal with its digits and nothing else. -/
theorem atomValue?_integerChars_eq_value? (n : Int) :
    atomValue? (integerChars n) =
      Numeral.value? ⟨decide (n < 0), Nat.toDigits 10 n.natAbs, [], [], []⟩ := by
  rw [atomValue?, if_neg (integerChars_ne_cons rfl (by decide)),
    if_neg (integerChars_ne_cons rfl (by decide)), if_neg (integerChars_ne_cons rfl (by decide)),
    Numeral.ofChars?_integerChars]
  rfl

/-- A written integer of 64 bits is read back as it was. -/
theorem atomValue?_integerChars {n : Int} (low : -2 ^ 63 ≤ n) (high : n < 2 ^ 64) :
    atomValue? (integerChars n) = some (.integer n) := by
  rw [atomValue?_integerChars_eq_value?, Numeral.value?_digits, if_pos ⟨low, high⟩]

end CardCodex
