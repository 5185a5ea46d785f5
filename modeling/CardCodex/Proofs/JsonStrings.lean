/-
Module: CardCodex.Proofs.JsonStrings
Purpose: What may stand between the quotes of a JSON string, and that the lexer reads every
  spelling of a content as that content.  The writer has one of the spellings.
Main exports: UnitSpells, CharSpells, Spells, Lexer.tokensFrom, Lexer.foldlM_step_spells,
  Lexer.tokensFrom_string, spells_flatMap_jsonEscape
-/
import CardCodex.Json.Token
import CardCodex.Json.Writer

namespace CardCodex

/-! ### Spellings -/

/-- Four hexadecimal digits, in either case, and the code unit that they denote. -/
inductive UnitSpells : Nat → List Char → Prop where
  | digits {first second third fourth : Char} {a b c d : Nat} (firstIs : hexValue? first = some a)
      (secondIs : hexValue? second = some b) (thirdIs : hexValue? third = some c)
      (fourthIs : hexValue? fourth = some d) :
      UnitSpells (16 * (16 * (16 * a + b) + c) + d) [first, second, third, fourth]

/-- What may stand for a character between the quotes of a JSON string: the character itself,
or an escape by a letter, by its code unit or by its surrogate pair. -/
inductive CharSpells (c : Char) : List Char → Prop where
  | plain (noQuote : c ≠ '"') (noBackslash : c ≠ '\\') (noControl : 0x20 ≤ c.toNat) :
      CharSpells c [c]
  | letter {letter : Char} (meant : shortEscape? letter = some c) : CharSpells c ['\\', letter]
  | unit {digits : List Char} (unit : UnitSpells c.toNat digits) :
      CharSpells c ('\\' :: 'u' :: digits)
  | pair {high low : List Char} (wide : 0x10000 ≤ c.toNat)
      (highUnit : UnitSpells (0xD800 + (c.toNat - 0x10000) / 0x400) high)
      (lowUnit : UnitSpells (0xDC00 + (c.toNat - 0x10000) % 0x400) low) :
      CharSpells c ('\\' :: 'u' :: (high ++ '\\' :: 'u' :: low))

/-- What may stand for a content between the quotes of a JSON string. -/
inductive Spells : List Char → List Char → Prop where
  | nil : Spells [] []
  | cons {c : Char} {content piece text : List Char} (first : CharSpells c piece)
      (rest : Spells content text) : Spells (c :: content) (piece ++ text)

/-- Whether a character may stand for itself in a JSON string. -/
def isPlainChar (c : Char) : Bool :=
  c != '"' && c != '\\' && 0x20 ≤ c.toNat

/-- Characters that need no escape stand for themselves. -/
theorem Spells.plain {content : List Char} (noEscape : content.all isPlainChar = true) :
    Spells content content := by
  induction content with
  | nil => exact .nil
  | cons c content inductionHypothesis =>
      rw [List.all_cons, Bool.and_eq_true] at noEscape
      obtain ⟨isPlain, others⟩ := noEscape
      simp only [isPlainChar, Bool.and_eq_true, bne_iff_ne, decide_eq_true_eq] at isPlain
      obtain ⟨⟨noQuote, noBackslash⟩, noControl⟩ := isPlain
      exact .cons (.plain noQuote noBackslash noControl) (inductionHypothesis others)

/-! ### Code units -/

theorem toNat_lt_of_char (c : Char) : c.toNat < 0x110000 := by
  have valid := c.valid
  rw [UInt32.isValidChar, Nat.isValidChar] at valid
  rw [Char.toNat]
  omega

/-- The code of a character is no half of a pair. -/
theorem takeUnit_toNat (read : List Char) (c : Char) :
    takeUnit read c.toNat = some (.string (c :: read) .plain) := by
  have valid := c.valid
  rw [UInt32.isValidChar, Nat.isValidChar] at valid
  have noHigh : isHighSurrogate c.toNat = false := by
    simp only [isHighSurrogate, Bool.and_eq_false_iff, decide_eq_false_iff_not, Char.toNat]
    omega
  have noLow : isLowSurrogate c.toNat = false := by
    simp only [isLowSurrogate, Bool.and_eq_false_iff, decide_eq_false_iff_not, Char.toNat]
    omega
  simp [takeUnit, noHigh, noLow]

section Pair

variable (read : List Char) {c : Char}

theorem takeUnit_high :
    takeUnit read (0xD800 + (c.toNat - 0x10000) / 0x400) =
      some (.string read (.lowBackslash (0xD800 + (c.toNat - 0x10000) / 0x400))) := by
  have bounded := toNat_lt_of_char c
  have isHigh : isHighSurrogate (0xD800 + (c.toNat - 0x10000) / 0x400) = true := by
    simp only [isHighSurrogate, Bool.and_eq_true, decide_eq_true_eq]
    omega
  rw [takeUnit, if_pos isHigh]

theorem takeLowUnit_low (wide : 0x10000 ≤ c.toNat) :
    takeLowUnit read (0xD800 + (c.toNat - 0x10000) / 0x400)
        (0xDC00 + (c.toNat - 0x10000) % 0x400) =
      some (.string (c :: read) .plain) := by
  have isLow : isLowSurrogate (0xDC00 + (c.toNat - 0x10000) % 0x400) = true := by
    simp only [isLowSurrogate, Bool.and_eq_true, decide_eq_true_eq]
    omega
  have whole : 0x10000 + (0xD800 + (c.toNat - 0x10000) / 0x400 - 0xD800) * 0x400 +
      (0xDC00 + (c.toNat - 0x10000) % 0x400 - 0xDC00) = c.toNat := by
    omega
  rw [takeLowUnit, if_pos isLow, pairedChar, whole, Char.ofNat_toNat]

end Pair

/-! ### The lexer on strings -/

namespace Lexer

/-- The tokens, last first, once `text` has been read to its end. -/
def tokensFrom (lexer : Lexer) (text : List Char) : Option (List Token) :=
  (text.foldlM step lexer).bind finish

theorem tokensFrom_cons {lexer next : Lexer} {c : Char} {rest : List Char}
    (stepped : lexer.step c = some next) : lexer.tokensFrom (c :: rest) = next.tokensFrom rest := by
  rw [tokensFrom, List.foldlM_cons, stepped]
  rfl

theorem tokensFrom_append {lexer next : Lexer} {text rest : List Char}
    (passed : text.foldlM step lexer = some next) :
    lexer.tokensFrom (text ++ rest) = next.tokensFrom rest := by
  rw [tokensFrom, List.foldlM_append, passed]
  rfl

variable {tokens : List Token} {read rest : List Char}

theorem foldlM_step_unit {digits : List Char} {unit : Nat} (spells : UnitSpells unit digits)
    {next : Pending} (taken : takeUnit read unit = some next) (tokens : List Token) :
    digits.foldlM step ⟨tokens, .string read (.unit 0 0)⟩ = some ⟨tokens, next⟩ := by
  cases spells with
  | digits first second third fourth =>
      simp [step, stepString, first, second, third, fourth, taken]

theorem foldlM_step_lowUnit {digits : List Char} {high unit : Nat}
    (spells : UnitSpells unit digits) {next : Pending}
    (taken : takeLowUnit read high unit = some next) (tokens : List Token) :
    digits.foldlM step ⟨tokens, .string read (.lowUnit high 0 0)⟩ = some ⟨tokens, next⟩ := by
  cases spells with
  | digits first second third fourth =>
      simp [step, stepString, first, second, third, fourth, taken]

theorem foldlM_step_append {lexer next : Lexer} {text more : List Char}
    (passed : text.foldlM step lexer = some next) :
    (text ++ more).foldlM step lexer = more.foldlM step next := by
  rw [List.foldlM_append, passed]
  rfl

/-- However a character is spelled, it is read as that character. -/
theorem foldlM_step_charSpells {c : Char} {piece : List Char} (spells : CharSpells c piece) :
    piece.foldlM step ⟨tokens, .string read .plain⟩ =
      some ⟨tokens, .string (c :: read) .plain⟩ := by
  have opened : ['\\', 'u'].foldlM step ⟨tokens, .string read .plain⟩ =
      some ⟨tokens, .string read (.unit 0 0)⟩ := rfl
  cases spells with
  | plain noQuote noBackslash noControl =>
      simp [step, stepString, noQuote, noBackslash, Nat.not_lt.mpr noControl]
  | @letter letter meant =>
      have noUnit : letter ≠ 'u' := by
        rintro rfl
        cases meant
      simp [step, stepString, noUnit, meant]
  | @unit digits unit =>
      exact (foldlM_step_append opened).trans (foldlM_step_unit unit (takeUnit_toNat read c) tokens)
  | @pair high low wide highUnit lowUnit =>
      have between : ∀ unit, ['\\', 'u'].foldlM step ⟨tokens, .string read (.lowBackslash unit)⟩ =
          some ⟨tokens, .string read (.lowUnit unit 0 0)⟩ := fun _ => rfl
      have first := foldlM_step_unit highUnit (takeUnit_high read) tokens
      have second := foldlM_step_lowUnit lowUnit (takeLowUnit_low read wide) tokens
      calc (['\\', 'u'] ++ (high ++ (['\\', 'u'] ++ low))).foldlM step
            ⟨tokens, .string read .plain⟩
          = (high ++ (['\\', 'u'] ++ low)).foldlM step ⟨tokens, .string read (.unit 0 0)⟩ :=
            foldlM_step_append opened
        _ = (['\\', 'u'] ++ low).foldlM step ⟨tokens, .string read (.lowBackslash _)⟩ :=
            foldlM_step_append first
        _ = low.foldlM step ⟨tokens, .string read (.lowUnit _ 0 0)⟩ :=
            foldlM_step_append (between _)
        _ = some ⟨tokens, .string (c :: read) .plain⟩ := second

/-- However a content is spelled, it is read character by character. -/
theorem foldlM_step_spells {content text : List Char} (spells : Spells content text) :
    text.foldlM step ⟨tokens, .string read .plain⟩ =
      some ⟨tokens, .string (content.reverse ++ read) .plain⟩ := by
  induction spells generalizing read with
  | nil => rfl
  | cons first _ inductionHypothesis =>
      rw [foldlM_step_append (foldlM_step_charSpells first), inductionHypothesis,
        List.reverse_cons, List.append_assoc, List.singleton_append]

/-- A string is one token, however its content is spelled. -/
theorem tokensFrom_string {content : String} {text : List Char}
    (spells : Spells content.toList text) :
    tokensFrom ⟨tokens, .gap⟩ ('"' :: (text ++ '"' :: rest)) =
      tokensFrom ⟨.string content :: tokens, .gap⟩ rest := by
  have opened : step ⟨tokens, .gap⟩ '"' = some ⟨tokens, .string [] .plain⟩ := rfl
  have closed : step ⟨tokens, .string (content.toList.reverse ++ []) .plain⟩ '"' =
      some ⟨.string content :: tokens, .gap⟩ := by
    simp [step]
  rw [tokensFrom_cons opened, tokensFrom_append (foldlM_step_spells spells)]
  exact tokensFrom_cons closed

end Lexer

/-! ### Written strings -/

theorem hexValue?_digitChar : ∀ digit < 16, hexValue? (Nat.digitChar digit) = some digit := by
  decide

/-- The code of a control character has two digits. -/
theorem unitSpells_control {c : Char} (control : c.toNat < 0x20) :
    UnitSpells c.toNat ['0', '0', Nat.digitChar (c.toNat / 16), Nat.digitChar (c.toNat % 16)] := by
  have digits : UnitSpells (16 * (16 * (16 * 0 + 0) + c.toNat / 16) + c.toNat % 16)
      ['0', '0', Nat.digitChar (c.toNat / 16), Nat.digitChar (c.toNat % 16)] :=
    .digits rfl rfl (hexValue?_digitChar _ (by omega)) (hexValue?_digitChar _ (by omega))
  have whole : 16 * (16 * (16 * 0 + 0) + c.toNat / 16) + c.toNat % 16 = c.toNat := by omega
  rwa [whole] at digits

/-- What is written for a character is one of its spellings. -/
theorem charSpells_jsonEscape (c : Char) : CharSpells c (jsonEscape c) := by
  unfold jsonEscape
  split
  · next quote =>
      subst quote
      exact .letter rfl
  split
  · next backslash =>
      subst backslash
      exact .letter rfl
  split
  · next backspace =>
      subst backspace
      exact .letter rfl
  split
  · next formFeed =>
      subst formFeed
      exact .letter rfl
  split
  · next newline =>
      subst newline
      exact .letter rfl
  split
  · next carriageReturn =>
      subst carriageReturn
      exact .letter rfl
  split
  · next tab =>
      subst tab
      exact .letter rfl
  split
  · next control => exact .unit (unitSpells_control control)
  · next noQuote noBackslash _ _ _ _ _ noControl =>
      exact .plain noQuote noBackslash (Nat.not_lt.mp noControl)

theorem spells_flatMap_jsonEscape (content : List Char) :
    Spells content (content.flatMap jsonEscape) := by
  induction content with
  | nil => exact .nil
  | cons c content inductionHypothesis =>
      rw [List.flatMap_cons]
      exact .cons (charSpells_jsonEscape c) inductionHypothesis

end CardCodex
