/-
Module: CardCodex.Proofs.DoubleLimit
Purpose: Which integers are too large to be floats.  A literal is measured by the product of a
  rounded significand and a rounded power of ten; as both are rounded to the nearest, the
  integers that are refused are those from one magnitude on.
Main exports: roundToMultiple_mono, roundTo53Bits_mono, Accumulates, accumulates_accumulate,
  hugeMagnitude, isHuge_eq_true_iff
-/
import Mathlib.Algebra.Group.Nat.Defs
import CardCodex.Proofs.Numerals

namespace CardCodex.Numeral

/-! ### Rounding -/

/-- The multiple of `unit` that is nearest to `n`, a tie going to the even neighbour. -/
def roundToMultiple (unit n : Nat) : Nat :=
  if 2 * (n % unit) > unit ∨ (2 * (n % unit) = unit ∧ n / unit % 2 = 1) then
    (n / unit + 1) * unit
  else
    n / unit * unit

theorem roundTo53Bits_eq (n : Nat) :
    roundTo53Bits n = roundToMultiple (2 ^ (n.log2 + 1 - 53)) n := rfl

section Multiples

variable {unit m n bound : Nat}

theorem quotient_le_roundToMultiple : n / unit * unit ≤ roundToMultiple unit n := by
  unfold roundToMultiple
  split
  · exact Nat.mul_le_mul_right unit (Nat.le_succ _)
  · exact Nat.le_refl _

theorem roundToMultiple_le_quotient_succ : roundToMultiple unit n ≤ (n / unit + 1) * unit := by
  unfold roundToMultiple
  split
  · exact Nat.le_refl _
  · exact Nat.mul_le_mul_right unit (Nat.le_succ _)

theorem roundToMultiple_self (multiple : unit ∣ n) : roundToMultiple unit n = n := by
  have noRest : n % unit = 0 := Nat.mod_eq_zero_of_dvd multiple
  have stays : ¬ (2 * (n % unit) > unit ∨ (2 * (n % unit) = unit ∧ n / unit % 2 = 1)) := by
    rw [noRest]
    rintro (above | ⟨rfl, odd⟩)
    · omega
    · rw [Nat.mul_zero, Nat.div_zero] at odd
      cases odd
  rw [roundToMultiple, if_neg stays, Nat.div_mul_cancel multiple]

/-- Rounding keeps the order: numbers between the same two multiples differ in how much they
have above the lower one, and all others have a multiple between them. -/
theorem roundToMultiple_mono (ordered : m ≤ n) :
    roundToMultiple unit m ≤ roundToMultiple unit n := by
  have quotients : m / unit ≤ n / unit := Nat.div_le_div_right ordered
  rcases Nat.lt_or_eq_of_le quotients with apart | same
  · calc roundToMultiple unit m
        ≤ (m / unit + 1) * unit := roundToMultiple_le_quotient_succ
      _ ≤ n / unit * unit := Nat.mul_le_mul_right unit apart
      _ ≤ roundToMultiple unit n := quotient_le_roundToMultiple
  · have remainders : m % unit ≤ n % unit := by
      have splitFirst := Nat.div_add_mod m unit
      have splitSecond := Nat.div_add_mod n unit
      rw [same] at splitFirst
      omega
    by_cases up : 2 * (m % unit) > unit ∨ (2 * (m % unit) = unit ∧ m / unit % 2 = 1)
    · have alsoUp : 2 * (n % unit) > unit ∨ (2 * (n % unit) = unit ∧ n / unit % 2 = 1) := by
        rw [← same]
        omega
      rw [roundToMultiple, roundToMultiple, if_pos up, if_pos alsoUp, same]
    · rw [roundToMultiple, if_neg up, same]
      exact quotient_le_roundToMultiple

/-- Rounding does not pass a multiple. -/
theorem roundToMultiple_le (multiple : unit ∣ bound) (below : n ≤ bound) :
    roundToMultiple unit n ≤ bound :=
  calc roundToMultiple unit n
      ≤ roundToMultiple unit bound := roundToMultiple_mono below
    _ = bound := roundToMultiple_self multiple

theorem le_roundToMultiple (multiple : unit ∣ bound) (above : bound ≤ n) :
    bound ≤ roundToMultiple unit n :=
  calc bound
      = roundToMultiple unit bound := (roundToMultiple_self multiple).symm
    _ ≤ roundToMultiple unit n := roundToMultiple_mono above

end Multiples

theorem roundTo53Bits_le (n : Nat) : roundTo53Bits n ≤ 2 ^ (n.log2 + 1) := by
  rw [roundTo53Bits_eq]
  exact roundToMultiple_le (Nat.pow_dvd_pow 2 (Nat.sub_le _ _)) (Nat.le_of_lt Nat.lt_log2_self)

theorem le_roundTo53Bits {n : Nat} (nonzero : n ≠ 0) : 2 ^ n.log2 ≤ roundTo53Bits n := by
  rw [roundTo53Bits_eq]
  exact le_roundToMultiple (Nat.pow_dvd_pow 2 (by omega)) (Nat.log2_self_le nonzero)

/-- Numbers of the same length are rounded to multiples of the same power of two; a longer
number stays longer when it is rounded. -/
theorem roundTo53Bits_mono {m n : Nat} (ordered : m ≤ n) :
    roundTo53Bits m ≤ roundTo53Bits n := by
  rcases Nat.lt_trichotomy m.log2 n.log2 with shorter | sameLength | longer
  · have nonzero : n ≠ 0 := by
      rintro rfl
      exact Nat.not_lt_zero _ shorter
    calc roundTo53Bits m
        ≤ 2 ^ (m.log2 + 1) := roundTo53Bits_le m
      _ ≤ 2 ^ n.log2 := Nat.pow_le_pow_right (by decide) shorter
      _ ≤ roundTo53Bits n := le_roundTo53Bits nonzero
  · rw [roundTo53Bits_eq, roundTo53Bits_eq, sameLength]
    exact roundToMultiple_mono ordered
  · have nonzero : m ≠ 0 := by
      rintro rfl
      exact Nat.not_lt_zero _ longer
    have greater : n < m :=
      calc n < 2 ^ (n.log2 + 1) := Nat.lt_log2_self
        _ ≤ 2 ^ m.log2 := Nat.pow_le_pow_right (by decide) longer
        _ ≤ m := Nat.log2_self_le nonzero
    exact absurd ordered (Nat.not_le.mpr greater)

/-! ### The significand of an integer -/

/-- How a number is cut to a significand: the significand is a word, and it cannot take
another digit when some digits are left over. -/
structure Accumulates (n significand surplus : Nat) : Prop where
  low : significand * 10 ^ surplus ≤ n
  high : n < (significand + 1) * 10 ^ surplus
  isWord : significand < wordLimit
  full : 0 < surplus → wordLimit ≤ 10 * significand + 9

theorem digit_le_nine {c : Char} (isDigit : c.isDigit = true) : c.toNat - '0'.toNat ≤ 9 :=
  Nat.sub_le_of_le_add (Char.isDigit_iff_toNat.mp isDigit).2

theorem le_ofDigitChars (digits : List Char) (start : Nat) :
    start * 10 ^ digits.length ≤ Nat.ofDigitChars 10 digits start := by
  rw [Nat.ofDigitChars_eq_ofDigitChars_zero, Nat.mul_comm]
  exact Nat.le_add_right _ _

theorem ofDigitChars_lt {digits : List Char} (allDigits : ∀ c ∈ digits, c.isDigit = true)
    (start : Nat) :
    Nat.ofDigitChars 10 digits start < (start + 1) * 10 ^ digits.length := by
  induction digits generalizing start with
  | nil => simp [Nat.ofDigitChars]
  | cons c digits inductionHypothesis =>
      obtain ⟨isDigit, others⟩ := List.forall_mem_cons.mp allDigits
      have worth := digit_le_nine isDigit
      rw [Nat.ofDigitChars_cons]
      calc Nat.ofDigitChars 10 digits (10 * start + (c.toNat - '0'.toNat))
          < (10 * start + (c.toNat - '0'.toNat) + 1) * 10 ^ digits.length :=
            inductionHypothesis others _
        _ ≤ (start + 1) * 10 * 10 ^ digits.length := Nat.mul_le_mul_right _ (by omega)
        _ = (start + 1) * 10 ^ (c :: digits).length := by
            rw [List.length_cons, Nat.pow_succ, Nat.mul_assoc, Nat.mul_comm 10]

/-- Digits are accumulated for as long as the significand stays a word. -/
theorem accumulates_accumulate {digits : List Char} (allDigits : ∀ c ∈ digits, c.isDigit = true)
    {start : Nat} (isWord : start < wordLimit) :
    Accumulates (Nat.ofDigitChars 10 digits start) (accumulate start digits).1
      (accumulate start digits).2.length := by
  induction digits generalizing start with
  | nil => exact ⟨le_ofDigitChars [] start, ofDigitChars_lt allDigits start, isWord, nofun⟩
  | cons c digits inductionHypothesis =>
      obtain ⟨isDigit, others⟩ := List.forall_mem_cons.mp allDigits
      rw [accumulate]
      split
      · next fits => exact inductionHypothesis others fits
      · next tooLong =>
          have worth := digit_le_nine isDigit
          refine ⟨le_ofDigitChars _ start, ofDigitChars_lt allDigits start, isWord, ?_⟩
          intro _
          simp only [Char.reduceToNat] at worth
          omega

/-! ### The integers that are too large -/

/-- The least significand that makes a number with 289 more digits too large. -/
def hugeSignificand : Nat :=
  17976931348623156225

/-- The least integer that is refused as a float, for being too large. -/
def hugeMagnitude : Nat :=
  hugeSignificand * 10 ^ 289

/-- What the digits of a significand and a power of ten are measured by. -/
def roundedProduct (significand exponent : Nat) : Nat :=
  roundTo53Bits significand * roundTo53Bits (Nat.pow 10 exponent)

theorem roundedProduct_mono {significand other exponent longer : Nat}
    (significands : significand ≤ other) (exponents : exponent ≤ longer) :
    roundedProduct significand exponent ≤ roundedProduct other longer :=
  Nat.mul_le_mul (roundTo53Bits_mono significands)
    (roundTo53Bits_mono (Nat.pow_le_pow_right (by decide) exponents))

section Accumulated

variable {n significand surplus : Nat}

/-- With 288 digits left over a number is never too large. -/
theorem small_of_surplus_le (accumulates : Accumulates n significand surplus)
    (few : surplus ≤ 288) :
    roundedProduct significand surplus < doubleLimit ∧ n < hugeMagnitude := by
  have isWord := accumulates.isWord
  constructor
  · calc roundedProduct significand surplus
        ≤ roundedProduct (wordLimit - 1) 288 := roundedProduct_mono (by omega) few
      _ < doubleLimit := by decide +kernel
  · calc n < (significand + 1) * 10 ^ surplus := accumulates.high
      _ ≤ wordLimit * 10 ^ 288 :=
          Nat.mul_le_mul isWord (Nat.pow_le_pow_right (by decide) few)
      _ < hugeMagnitude := by decide +kernel

/-- With 290 digits left over a number is always too large, as its significand is full. -/
theorem large_of_le_surplus (accumulates : Accumulates n significand surplus)
    (many : 290 ≤ surplus) :
    doubleLimit ≤ roundedProduct significand surplus ∧ hugeMagnitude ≤ n := by
  have full : wordLimit / 10 ≤ significand := by
    have noMore := accumulates.full (by omega)
    rw [wordLimit] at noMore ⊢
    omega
  constructor
  · calc doubleLimit
        ≤ roundedProduct (wordLimit / 10) 290 := by decide +kernel
      _ ≤ roundedProduct significand surplus := roundedProduct_mono full many
  · calc hugeMagnitude
        ≤ wordLimit / 10 * 10 ^ 290 := by decide +kernel
      _ ≤ significand * 10 ^ surplus :=
          Nat.mul_le_mul full (Nat.pow_le_pow_right (by decide) many)
      _ ≤ n := accumulates.low

/-- With 289 digits left over the significand decides. -/
theorem large_iff_of_surplus_eq (accumulates : Accumulates n significand surplus)
    (decisive : surplus = 289) :
    doubleLimit ≤ roundedProduct significand surplus ↔ hugeMagnitude ≤ n := by
  have magnitude : hugeMagnitude = hugeSignificand * 10 ^ surplus := by
    rw [decisive, hugeMagnitude]
  rw [magnitude]
  rcases Nat.lt_or_ge significand hugeSignificand with below | reached
  · have small : roundedProduct significand surplus < doubleLimit :=
      calc roundedProduct significand surplus
          ≤ roundedProduct (hugeSignificand - 1) 289 :=
            roundedProduct_mono (Nat.le_sub_one_of_lt below) (Nat.le_of_eq decisive)
        _ < doubleLimit := by decide +kernel
    have less : n < hugeSignificand * 10 ^ surplus :=
      calc n < (significand + 1) * 10 ^ surplus := accumulates.high
        _ ≤ hugeSignificand * 10 ^ surplus := Nat.mul_le_mul_right _ below
    exact iff_of_false (Nat.not_le.mpr small) (Nat.not_le.mpr less)
  · apply iff_of_true
    · calc doubleLimit
          ≤ roundedProduct hugeSignificand 289 := by decide +kernel
        _ ≤ roundedProduct significand surplus :=
            roundedProduct_mono reached (Nat.le_of_eq decisive.symm)
    · calc hugeSignificand * 10 ^ surplus
          ≤ significand * 10 ^ surplus := Nat.mul_le_mul_right _ reached
        _ ≤ n := accumulates.low

/-- A number is measured to be too large from one magnitude on. -/
theorem large_iff (accumulates : Accumulates n significand surplus) :
    doubleLimit ≤ roundedProduct significand surplus ↔ hugeMagnitude ≤ n := by
  rcases Nat.lt_trichotomy surplus 289 with few | decisive | many
  · obtain ⟨small, less⟩ := small_of_surplus_le accumulates (Nat.le_of_lt_succ few)
    exact iff_of_false (Nat.not_le.mpr small) (Nat.not_le.mpr less)
  · exact large_iff_of_surplus_eq accumulates decisive
  · obtain ⟨large, reached⟩ := large_of_le_surplus accumulates many
    exact iff_of_true large reached

end Accumulated

theorem scaled_digits (negative : Bool) (digits : List Char) :
    scaled ⟨negative, digits, [], [], []⟩ =
      ((accumulate 0 digits).1, ((accumulate 0 digits).2.length : Int)) := by
  simp [scaled, accumulate, digitsValue]

/-- A product that is too large has a significand. -/
theorem ne_zero_of_large {significand exponent : Nat}
    (large : doubleLimit ≤ roundedProduct significand exponent) : significand ≠ 0 := by
  rintro rfl
  have noProduct : roundedProduct 0 exponent = 0 := Nat.zero_mul _
  have positive : 0 < doubleLimit := by decide +kernel
  omega

/-- An integer is too large to be a float from one magnitude on. -/
theorem isHuge_eq_true_iff (negative : Bool) (n : Nat) :
    isHuge ⟨negative, Nat.toDigits 10 n, [], [], []⟩ = true ↔ hugeMagnitude ≤ n := by
  have accumulates := accumulates_accumulate (isDigit_of_mem_toDigits (n := n))
    (by decide : 0 < wordLimit)
  rw [Nat.ofDigitChars_ten_toDigits] at accumulates
  rw [isHuge, scaled_digits, ← large_iff accumulates]
  generalize (accumulate 0 (Nat.toDigits 10 n)).1 = significand at accumulates
  generalize (accumulate 0 (Nat.toDigits 10 n)).2.length = surplus at accumulates
  -- Past a power of ten that is too large the product is not looked at.
  have beyond : 308 < surplus → doubleLimit ≤ roundedProduct significand surplus := fun many =>
    (large_of_le_surplus accumulates (by omega)).1
  simp only [Int.toNat_natCast, Bool.and_eq_true, bne_iff_ne, decide_eq_true_eq,
    Bool.or_eq_true, Int.natCast_nonneg, and_true]
  change significand ≠ 0 ∧ (308 < (surplus : Int) ∨
    doubleLimit ≤ roundedProduct significand surplus) ↔ _
  constructor
  · rintro ⟨_, many | large⟩
    · exact beyond (by omega)
    · exact large
  · intro large
    exact ⟨ne_zero_of_large large, .inr large⟩

end CardCodex.Numeral
