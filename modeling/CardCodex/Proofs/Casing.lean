/-
Module: CardCodex.Proofs.Casing
Purpose: Canonical lookup keys in terms of characters: the test on bytes and the two ways
  of building a key amount to putting ASCII letters in upper case.
Main exports: isCanonical_iff, upperCase, canonical_eq_upperCase, canonical_lowerCase,
  SameLetter, EqUpToCase, upperCase_eq_upperCase_iff, canonical_canonical, KeyChar, FoldsCase,
  canonical_foldsCase
-/
import Mathlib.Data.List.Forall2
import CardCodex.Text.Casing

namespace CardCodex

/-- `name` with its ASCII lower case letters in upper case. -/
def upperCase (name : String) : String :=
  String.ofList (name.toList.map Char.toUpper)

theorem toList_data_toUTF8 (name : String) :
    name.toUTF8.data.toList = name.toList.flatMap String.utf8EncodeChar := by
  rw [String.toUTF8_eq_toByteArray, ← String.utf8Encode_toList]
  simp [List.utf8Encode]

theorem isLower_iff {c : Char} : c.isLower = true ↔ 97 ≤ c.toNat ∧ c.toNat ≤ 122 := by
  change (decide (c.val ≥ 'a'.val) && decide (c.val ≤ 'z'.val)) = true ↔ _
  simp [UInt32.le_iff_toNat_le, ← Char.toNat_val]

theorem isLowerByte_ofNat {n : Nat} (byte : n < 256) :
    isLowerByte (UInt8.ofNat n) = true ↔ 97 ≤ n ∧ n ≤ 122 := by
  simp [isLowerByte, UInt8.le_iff_toNat_le, Nat.mod_eq_of_lt byte]

/-- A character has a byte of a lower case letter exactly when it is one. -/
theorem any_isLowerByte_utf8EncodeChar (c : Char) :
    (String.utf8EncodeChar c).any isLowerByte = c.isLower := by
  rw [Bool.eq_iff_iff, isLower_iff]
  have code : c.val.toNat = c.toNat := Char.toNat_val
  have limit : c.toNat < 0x110000 := by
    rcases c.valid with low | high
    · exact Nat.lt_trans low (by decide)
    · exact high.2
  rw [String.utf8EncodeChar, code]
  -- Every byte of a longer encoding is at least 128.
  split
  · simp [isLowerByte_ofNat (show c.toNat < 256 by omega)]
  · split
    · simp only [List.any_cons, List.any_nil, Bool.or_false, Bool.or_eq_true]
      rw [isLowerByte_ofNat (by omega), isLowerByte_ofNat (by omega)]
      omega
    · split
      · simp only [List.any_cons, List.any_nil, Bool.or_false, Bool.or_eq_true]
        rw [isLowerByte_ofNat (by omega), isLowerByte_ofNat (by omega),
          isLowerByte_ofNat (by omega)]
        omega
      · simp only [List.any_cons, List.any_nil, Bool.or_false, Bool.or_eq_true]
        rw [isLowerByte_ofNat (by omega), isLowerByte_ofNat (by omega),
          isLowerByte_ofNat (by omega), isLowerByte_ofNat (by omega)]
        omega

/-- A name is canonical when none of its characters is an ASCII lower case letter. -/
theorem isCanonical_iff {name : String} :
    isCanonical name = true ↔ ∀ c ∈ name.toList, c.isLower = false := by
  rw [isCanonical, toList_data_toUTF8, Bool.not_eq_true', List.any_flatMap,
    List.any_eq_false]
  simp [any_isLowerByte_utf8EncodeChar]

theorem toUpper_eq_self {c : Char} (notLower : c.isLower = false) : c.toUpper = c := by
  have outside : ¬ ('a'.val ≤ c.val ∧ c.val ≤ 'z'.val) := by
    intro inside
    have lower : c.isLower = true := by
      simpa [isLower_iff, UInt32.le_iff_toNat_le] using inside
    rw [notLower] at lower
    cases lower
  exact dif_neg outside

private theorem map_eq_self {change : Char → Char} {text : List Char}
    (same : ∀ c ∈ text, change c = c) : text.map change = text :=
  calc
    text.map change = text.map id := List.map_congr_left same
    _ = text := List.map_id text

/-- A canonical name is in upper case. -/
theorem upperCase_eq_self {name : String} (already : isCanonical name = true) :
    upperCase name = name := by
  have same : name.toList.map Char.toUpper = name.toList :=
    map_eq_self fun c member => toUpper_eq_self (isCanonical_iff.mp already c member)
  rw [upperCase, same, String.ofList_toList]

/-- Both ways to build a lookup key put the ASCII letters of the name in upper case. -/
theorem canonical_eq_upperCase (name : String) : canonical name = upperCase name := by
  rw [canonical]
  split
  · next already => exact (upperCase_eq_self already).symm
  · rfl

/-! ### Upper and lower case letters -/

theorem toUpper_of_lower :
    ∀ letter < 26, (Char.ofNat (97 + letter)).toUpper = Char.ofNat (65 + letter) := by
  decide

theorem toLower_of_upper :
    ∀ letter < 26, (Char.ofNat (65 + letter)).toLower = Char.ofNat (97 + letter) := by
  decide

theorem isLower_of_upper : ∀ letter < 26, (Char.ofNat (65 + letter)).isLower = false := by
  decide

theorem toUpper_of_upper {letter : Nat} (inAlphabet : letter < 26) :
    (Char.ofNat (65 + letter)).toUpper = Char.ofNat (65 + letter) :=
  toUpper_eq_self (isLower_of_upper letter inAlphabet)

theorem exists_letter_of_isLower {c : Char} (lower : c.isLower = true) :
    ∃ letter < 26, c = Char.ofNat (97 + letter) := by
  have bounds := isLower_iff.mp lower
  refine ⟨c.toNat - 97, by omega, ?_⟩
  rw [Nat.add_sub_cancel' bounds.1, Char.ofNat_toNat]

/-- A character that is no lower case letter comes back from lower case. -/
theorem toUpper_toLower {c : Char} (notLower : c.isLower = false) : c.toLower.toUpper = c := by
  by_cases upper : 'A'.val ≤ c.val ∧ c.val ≤ 'Z'.val
  · have bounds : 65 ≤ c.toNat ∧ c.toNat ≤ 90 := by
      simpa [UInt32.le_iff_toNat_le] using upper
    have inAlphabet : c.toNat - 65 < 26 := by omega
    have letter : Char.ofNat (65 + (c.toNat - 65)) = c := by
      rw [Nat.add_sub_cancel' bounds.1, Char.ofNat_toNat]
    rw [← letter, toLower_of_upper _ inAlphabet, toUpper_of_lower _ inAlphabet]
  · have same : c.toLower = c := dif_neg upper
    rw [same, toUpper_eq_self notLower]

/-- The lower case form of a canonical name has that name as its lookup key. -/
theorem canonical_lowerCase {name : String} (already : isCanonical name = true) :
    canonical (lowerCase name) = name := by
  rw [canonical_eq_upperCase, upperCase, lowerCase, String.toList_ofList, List.map_map]
  have same : name.toList.map (Char.toUpper ∘ Char.toLower) = name.toList :=
    map_eq_self fun c member => toUpper_toLower (isCanonical_iff.mp already c member)
  rw [same, String.ofList_toList]

/-! ### Texts that differ in casing only -/

/-- Two characters are the same, or the two cases of one ASCII letter.  The codes of the
letters start at 65 in upper case and at 97 in lower case. -/
inductive SameLetter : Char → Char → Prop where
  | refl (c : Char) : SameLetter c c
  | upperLower {letter : Nat} (inAlphabet : letter < 26) :
      SameLetter (Char.ofNat (65 + letter)) (Char.ofNat (97 + letter))
  | lowerUpper {letter : Nat} (inAlphabet : letter < 26) :
      SameLetter (Char.ofNat (97 + letter)) (Char.ofNat (65 + letter))

/-- Two texts have the same characters, one by one, up to the case of ASCII letters. -/
def EqUpToCase (first second : String) : Prop :=
  List.Forall₂ SameLetter first.toList second.toList

/-- Two characters have one upper case form when they are the same up to case. -/
theorem toUpper_eq_toUpper_iff {c d : Char} : c.toUpper = d.toUpper ↔ SameLetter c d := by
  constructor
  · intro same
    cases lowerFirst : c.isLower with
    | false =>
        rw [toUpper_eq_self lowerFirst] at same
        cases lowerSecond : d.isLower with
        | false =>
            rw [toUpper_eq_self lowerSecond] at same
            exact same ▸ .refl c
        | true =>
            obtain ⟨letter, inAlphabet, rfl⟩ := exists_letter_of_isLower lowerSecond
            rw [toUpper_of_lower letter inAlphabet] at same
            exact same ▸ .upperLower inAlphabet
    | true =>
        obtain ⟨letter, inAlphabet, rfl⟩ := exists_letter_of_isLower lowerFirst
        rw [toUpper_of_lower letter inAlphabet] at same
        cases lowerSecond : d.isLower with
        | false =>
            rw [toUpper_eq_self lowerSecond] at same
            exact same ▸ .lowerUpper inAlphabet
        | true =>
            obtain ⟨other, otherInAlphabet, rfl⟩ := exists_letter_of_isLower lowerSecond
            rw [toUpper_of_lower other otherInAlphabet] at same
            have sameLower := congrArg Char.toLower same
            rw [toLower_of_upper letter inAlphabet, toLower_of_upper other otherInAlphabet]
              at sameLower
            exact sameLower ▸ .refl _
  · intro same
    cases same with
    | refl => rfl
    | upperLower inAlphabet =>
        rw [toUpper_of_upper inAlphabet, toUpper_of_lower _ inAlphabet]
    | lowerUpper inAlphabet =>
        rw [toUpper_of_upper inAlphabet, toUpper_of_lower _ inAlphabet]

/-- Two texts have one upper case form when they are the same up to casing. -/
theorem upperCase_eq_upperCase_iff {first second : String} :
    upperCase first = upperCase second ↔ EqUpToCase first second := by
  rw [upperCase, upperCase, String.ofList_inj, ← List.forall₂_eq_eq_eq,
    List.forall₂_map_left_iff, List.forall₂_map_right_iff, EqUpToCase]
  simp only [toUpper_eq_toUpper_iff]

theorem isLower_toUpper (c : Char) : c.toUpper.isLower = false := by
  cases lower : c.isLower with
  | false => rw [toUpper_eq_self lower, lower]
  | true =>
      obtain ⟨letter, inAlphabet, rfl⟩ := exists_letter_of_isLower lower
      rw [toUpper_of_lower letter inAlphabet, isLower_of_upper letter inAlphabet]

/-- The upper case form of a name is a lookup key. -/
theorem isCanonical_upperCase (name : String) : isCanonical (upperCase name) = true := by
  rw [isCanonical_iff, upperCase, String.toList_ofList]
  intro c member
  obtain ⟨source, _, rfl⟩ := List.mem_map.mp member
  exact isLower_toUpper source

/-- Looking for a key of a key changes nothing. -/
theorem canonical_canonical (name : String) : canonical (canonical name) = canonical name := by
  rw [canonical_eq_upperCase name, canonical_eq_upperCase,
    upperCase_eq_self (isCanonical_upperCase name)]

/-! ### Keys, character by character -/

/-- What stands in a lookup key for a character of a name: the upper case form of an ASCII lower
case letter, and any other character itself. -/
inductive KeyChar : Char → Char → Prop where
  | letter {letter : Nat} (inAlphabet : letter < 26) :
      KeyChar (Char.ofNat (97 + letter)) (Char.ofNat (65 + letter))
  | other {c : Char} (notLower : c.isLower = false) : KeyChar c c

theorem toUpper_eq_iff {c d : Char} : c.toUpper = d ↔ KeyChar c d := by
  constructor
  · rintro rfl
    cases lower : c.isLower with
    | false =>
        rw [toUpper_eq_self lower]
        exact .other lower
    | true =>
        obtain ⟨letter, inAlphabet, rfl⟩ := exists_letter_of_isLower lower
        rw [toUpper_of_lower letter inAlphabet]
        exact .letter inAlphabet
  · intro stands
    cases stands with
    | letter inAlphabet => exact toUpper_of_lower _ inAlphabet
    | other notLower => exact toUpper_eq_self notLower

theorem upperCase_eq_iff {name key : String} :
    upperCase name = key ↔ List.Forall₂ KeyChar name.toList key.toList := by
  rw [← String.toList_inj, upperCase, String.toList_ofList, ← List.forall₂_eq_eq_eq,
    List.forall₂_map_left_iff]
  simp only [toUpper_eq_iff]

/-- A name that is its own upper case form passes the test for lookup keys. -/
theorem canonical_eq_self_iff {name : String} :
    canonical name = name ↔ isCanonical name = true := by
  rw [canonical_eq_upperCase]
  constructor
  · intro same
    rw [← same]
    exact isCanonical_upperCase name
  · exact upperCase_eq_self

/-- Texts that are the same up to casing are as long as each other and the same up to case at
every place. -/
theorem eqUpToCase_iff {first second : String} :
    EqUpToCase first second ↔
      first.toList.length = second.toList.length ∧
        ∀ place (inFirst : place < first.toList.length)
          (inSecond : place < second.toList.length),
          SameLetter first.toList[place] second.toList[place] :=
  List.forall₂_iff_get

/-- What it takes to fold the case of ASCII letters and nothing else: `isKey` tests for lookup
keys, `keyOf` gives the key of a name and may return the name itself, and `copied` gives it in a
new text each time. -/
structure FoldsCase (isKey : String → Bool) (keyOf copied : String → String) : Prop where
  /-- The test looks for ASCII lower case letters, in whatever company they are. -/
  isKey_iff : ∀ name, isKey name = true ↔ ∀ c ∈ name.toList, c.isLower = false
  /-- The key has the letters of the name in upper case and all else as it is. -/
  keyOf_eq_iff : ∀ name key, keyOf name = key ↔ List.Forall₂ KeyChar name.toList key.toList
  /-- A new text is the same key, also where the name itself would do. -/
  copied_eq : ∀ name, copied name = keyOf name
  keyOf_eq_self_iff : ∀ name, keyOf name = name ↔ isKey name = true
  keyOf_keyOf : ∀ name, keyOf (keyOf name) = keyOf name
  /-- Names share a key when they differ in the case of ASCII letters only. -/
  keyOf_eq_keyOf_iff : ∀ first second, keyOf first = keyOf second ↔
    first.toList.length = second.toList.length ∧
      ∀ place (inFirst : place < first.toList.length) (inSecond : place < second.toList.length),
        SameLetter first.toList[place] second.toList[place]

/-- Lookup keys, which are found by their bytes and copied only where they have to be, fold the
case of ASCII letters character by character. -/
theorem canonical_foldsCase : FoldsCase isCanonical canonical upperCase := by
  constructor
  · intro name
    exact isCanonical_iff
  · intro name key
    rw [canonical_eq_upperCase]
    exact upperCase_eq_iff
  · intro name
    exact (canonical_eq_upperCase name).symm
  · intro name
    exact canonical_eq_self_iff
  · exact canonical_canonical
  · intro first second
    rw [canonical_eq_upperCase, canonical_eq_upperCase, upperCase_eq_upperCase_iff]
    exact eqUpToCase_iff

end CardCodex
