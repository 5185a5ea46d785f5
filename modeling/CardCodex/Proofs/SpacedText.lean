/-
Module: CardCodex.Proofs.SpacedText
Purpose: JSON texts as anyone may write them, with blanks between the tokens and any spelling
  of the strings.  A document with one card and one tag is read as such, however it is
  written, just when the literal of the tag denotes a value.
Main exports: TokenSpells, Spaced, Lexer.tokensFrom_spaced, OffersLiteral,
  OffersLiteral.parse?_eq_map
-/
import CardCodex.Proofs.JsonText

namespace CardCodex

/-! ### Tokens as they are written -/

/-- How a token that is no atom is written. -/
inductive TokenSpells : Token → List Char → Prop where
  | punctuation {c : Char} {token : Token} (isToken : Token.punctuation? c = some token) :
      TokenSpells token [c]
  | string {content : String} {text : List Char} (spells : Spells content.toList text) :
      TokenSpells (.string content) ('"' :: (text ++ ['"']))

/-- A text that consists of the given tokens, none of them an atom, with blanks before each
of them and at the end. -/
inductive Spaced : List Token → List Char → Prop where
  | nil {blanks : List Char} (blank : ∀ c ∈ blanks, isJsonBlank c = true) : Spaced [] blanks
  | cons {token : Token} {tokens : List Token} {blanks piece text : List Char}
      (blank : ∀ c ∈ blanks, isJsonBlank c = true) (first : TokenSpells token piece)
      (rest : Spaced tokens text) : Spaced (token :: tokens) (blanks ++ (piece ++ text))

/-! ### Where an atom ends -/

/-- The character of a token starts nothing else. -/
theorem Token.startsNothing_of_punctuation? {c : Char} {token : Token}
    (isToken : punctuation? c = some token) :
    isJsonBlank c = false ∧ c ≠ '"' ∧ isAtomChar c = false := by
  have oneOf : c = '\x7b' ∨ c = '\x7d' ∨ c = '[' ∨ c = ']' ∨ c = ':' ∨ c = ',' := by
    unfold punctuation? at isToken
    grind
  rcases oneOf with rfl | rfl | rfl | rfl | rfl | rfl <;> exact ⟨rfl, by decide, rfl⟩

/-- Blanks before a text do not change that no atom goes on into it. -/
theorem EndsAtom.blanks {blanks rest : List Char} (blank : ∀ c ∈ blanks, isJsonBlank c = true)
    (ends : EndsAtom rest) : EndsAtom (blanks ++ rest) := by
  cases blanks with
  | nil => exact ends
  | cons c blanks => exact cons (isAtomChar_eq_false_of_blank (blank c List.mem_cons_self))

theorem TokenSpells.endsAtom {token : Token} {piece : List Char} (spells : TokenSpells token piece)
    (rest : List Char) : EndsAtom (piece ++ rest) := by
  cases spells with
  | punctuation isToken =>
      obtain ⟨_, _, noAtomChar⟩ := Token.startsNothing_of_punctuation? isToken
      exact EndsAtom.cons noAtomChar
  | string spells => exact EndsAtom.cons rfl

theorem Spaced.endsAtom {tokens : List Token} {text : List Char} (spaced : Spaced tokens text) :
    EndsAtom text := by
  cases spaced with
  | nil blank =>
      have ends := EndsAtom.nil.blanks blank
      rwa [List.append_nil] at ends
  | cons blank first rest => exact (first.endsAtom _).blanks blank

/-! ### The lexer on spaced texts -/

namespace Lexer

variable {tokens : List Token} {rest : List Char}

theorem tokensFrom_tokenSpells {token : Token} {piece : List Char}
    (spells : TokenSpells token piece) :
    tokensFrom ⟨tokens, .gap⟩ (piece ++ rest) = tokensFrom ⟨token :: tokens, .gap⟩ rest := by
  cases spells with
  | @punctuation c token isToken =>
      obtain ⟨noBlank, noQuote, noAtomChar⟩ := Token.startsNothing_of_punctuation? isToken
      apply tokensFrom_punctuation
      simp [stepGap, noBlank, noQuote, noAtomChar, isToken]
  | @string content text spells =>
      rw [List.cons_append, List.append_assoc]
      exact tokensFrom_string spells

/-- Tokens are read as they come, whatever blanks stand between them. -/
theorem tokensFrom_spaced {spelled : List Token} {text : List Char}
    (spaced : Spaced spelled text) :
    tokensFrom ⟨tokens, .gap⟩ (text ++ rest) =
      tokensFrom ⟨spelled.reverse ++ tokens, .gap⟩ rest := by
  induction spaced generalizing tokens with
  | nil blank => exact tokensFrom_blanks blank
  | cons blank first _ inductionHypothesis =>
      rw [List.append_assoc, List.append_assoc, tokensFrom_blanks blank,
        tokensFrom_tokenSpells first, inductionHypothesis, List.reverse_cons, List.append_assoc,
        List.singleton_append]

end Lexer

/-! ### Documents with one card and one tag -/

/-- A document with the card `id` alone, that has the key `key` alone, and a literal in the
place of its value. -/
inductive OffersLiteral (id key : String) (literal : List Char) : String → Prop where
  | document {before after : List Char}
      (opening : Spaced [.openBrace, .string id, .colon, .openBrace, .string key, .colon] before)
      (closing : Spaced [.closeBrace, .closeBrace] after) :
      OffersLiteral id key literal (String.ofList (before ++ (literal ++ after)))

/-- A document that offers a literal is JSON just when the literal has a value, and then it
offers that value. -/
theorem OffersLiteral.parse?_eq_map {id key text : String} {literal : List Char}
    (offers : OffersLiteral id key literal text) (nonempty : literal ≠ [])
    (atomChars : ∀ c ∈ literal, isAtomChar c = true) :
    Json.parse? text =
      (atomValue? literal).map fun value => .object [(id, .object [(key, value)])] := by
  cases offers with
  | @document before after opening closing =>
      have closed : ∀ tokens, Lexer.tokensFrom ⟨tokens, .gap⟩ after =
          some (.closeBrace :: .closeBrace :: tokens) := by
        intro tokens
        rw [← List.append_nil after, Lexer.tokensFrom_spaced closing]
        rfl
      rw [Json.parse?, String.toList_ofList, Token.ofChars?_eq, Lexer.start,
        Lexer.tokensFrom_spaced opening,
        Lexer.tokensFrom_atom_eq_bind nonempty atomChars closing.endsAtom]
      cases atomValue? literal with
      | none => rfl
      | some value =>
          rw [Option.bind_some, closed]
          rfl

end CardCodex
