/-
Module: CardCodex.Proofs.JsonTokens
Purpose: The lexer splits a written JSON text into the tokens of the value that was written,
  in either layout.
Main exports: Json.Writable, Json.tokens, EndsAtom, Lexer.tokensFrom_atom_eq_bind,
  Lexer.Splits, Lexer.splits_of_writable, Token.ofChars?_chars
-/
import CardCodex.Proofs.JsonStrings
import CardCodex.Proofs.Numerals

namespace CardCodex

namespace Json

/-- A value that a text can stand for: its integers have 64 bits, it holds no
floats, and its containers nest at most `depth` deep. -/
inductive Writable : Nat → Json → Prop where
  | null {depth : Nat} : Writable depth .null
  | bool {depth : Nat} (truth : Bool) : Writable depth (.bool truth)
  | integer {depth : Nat} {value : Int} (low : -2 ^ 63 ≤ value) (high : value < 2 ^ 64) :
      Writable depth (.integer value)
  | string {depth : Nat} (content : String) : Writable depth (.string content)
  | array {depth : Nat} {elements : List Json}
      (inner : ∀ element ∈ elements, Writable depth element) :
      Writable (depth + 1) (.array elements)
  | object {depth : Nat} {members : List (String × Json)}
      (inner : ∀ member ∈ members, Writable depth member.2) :
      Writable (depth + 1) (.object members)

mutual

/-- The tokens of a value. -/
def tokens : Json → List Token
  | .null => [.atom .null]
  | .bool truth => [.atom (.bool truth)]
  | .integer value => [.atom (.integer value)]
  | .float literal => [.atom (.float literal)]
  | .string content => [.string content]
  | .array [] => [.openBracket, .closeBracket]
  | .array (element :: rest) =>
      .openBracket :: tokens element ++ elementTokens rest ++ [.closeBracket]
  | .object [] => [.openBrace, .closeBrace]
  | .object ((key, value) :: rest) =>
      .openBrace :: .string key :: .colon :: tokens value ++ memberTokens rest ++ [.closeBrace]

/-- The tokens of the elements after the first one. -/
def elementTokens : List Json → List Token
  | [] => []
  | element :: rest => .comma :: tokens element ++ elementTokens rest

/-- The tokens of the members after the first one. -/
def memberTokens : List (String × Json) → List Token
  | [] => []
  | (key, value) :: rest =>
      .comma :: .string key :: .colon :: tokens value ++ memberTokens rest

end

end Json

/-! ### One lexical class at a time -/

theorem isAtomChar_eq_false_of_blank {c : Char} (blank : isJsonBlank c = true) :
    isAtomChar c = false := by
  simp only [isJsonBlank, Bool.or_eq_true, beq_iff_eq] at blank
  rcases blank with ((rfl | rfl) | rfl) | rfl <;> rfl

/-- No atom goes on into `rest`. -/
def EndsAtom (rest : List Char) : Prop :=
  ∀ c ∈ rest.head?, isAtomChar c = false

namespace EndsAtom

theorem nil : EndsAtom [] := by
  intro c member
  cases member

theorem cons {c : Char} {rest : List Char} (noAtomChar : isAtomChar c = false) :
    EndsAtom (c :: rest) := by
  intro first member
  cases member
  exact noAtomChar

theorem lineBreak {rest : List Char} (ends : EndsAtom rest) (layout : Layout) (depth : Nat) :
    EndsAtom (layout.lineBreak depth ++ rest) := by
  cases layout with
  | compact => exact ends
  | indented => exact cons rfl

theorem moreElements {rest : List Char} (ends : EndsAtom rest) (layout : Layout) (depth : Nat)
    (elements : List Json) : EndsAtom (Json.moreElements layout depth elements ++ rest) := by
  cases elements with
  | nil => exact ends
  | cons element elements => exact cons rfl

theorem moreMembers {rest : List Char} (ends : EndsAtom rest) (layout : Layout) (depth : Nat)
    (members : List (String × Json)) :
    EndsAtom (Json.moreMembers layout depth members ++ rest) := by
  cases members with
  | nil => exact ends
  | cons member members => exact cons rfl

end EndsAtom

namespace Lexer

variable {tokens : List Token} {rest : List Char}

/-- A single character that is a token of its own. -/
theorem tokensFrom_punctuation {c : Char} {token : Token}
    (stepped : stepGap tokens c = some ⟨token :: tokens, .gap⟩) :
    tokensFrom ⟨tokens, .gap⟩ (c :: rest) = tokensFrom ⟨token :: tokens, .gap⟩ rest :=
  tokensFrom_cons stepped

theorem tokensFrom_blanks {blanks : List Char} (blank : ∀ c ∈ blanks, isJsonBlank c = true) :
    tokensFrom ⟨tokens, .gap⟩ (blanks ++ rest) = tokensFrom ⟨tokens, .gap⟩ rest := by
  induction blanks with
  | nil => rfl
  | cons c blanks inductionHypothesis =>
      obtain ⟨head, others⟩ := List.forall_mem_cons.mp blank
      have stepped : step ⟨tokens, .gap⟩ c = some ⟨tokens, .gap⟩ := by
        simp [step, stepGap, head]
      exact (tokensFrom_cons stepped).trans (inductionHypothesis others)

theorem isJsonBlank_of_mem_lineBreak (layout : Layout) (depth : Nat) :
    ∀ c ∈ layout.lineBreak depth, isJsonBlank c = true := by
  cases layout with
  | compact => exact List.forall_mem_nil _
  | indented =>
      rw [Layout.lineBreak, List.forall_mem_cons]
      refine ⟨rfl, ?_⟩
      intro c member
      rw [List.eq_of_mem_replicate member]
      rfl

theorem tokensFrom_lineBreak (layout : Layout) (depth : Nat) :
    tokensFrom ⟨tokens, .gap⟩ (layout.lineBreak depth ++ rest) =
      tokensFrom ⟨tokens, .gap⟩ rest :=
  tokensFrom_blanks (isJsonBlank_of_mem_lineBreak layout depth)

theorem tokensFrom_colon (layout : Layout) :
    tokensFrom ⟨tokens, .gap⟩ (layout.colon ++ rest) =
      tokensFrom ⟨.colon :: tokens, .gap⟩ rest := by
  cases layout with
  | compact => exact tokensFrom_cons rfl
  | indented => exact (tokensFrom_cons rfl).trans (tokensFrom_cons rfl)

/-! #### Atoms -/

theorem foldlM_step_atom {read text : List Char}
    (atomChars : ∀ c ∈ text, isAtomChar c = true) :
    text.foldlM step ⟨tokens, .atom read⟩ = some ⟨tokens, .atom (text.reverse ++ read)⟩ := by
  induction text generalizing read with
  | nil => rfl
  | cons c text inductionHypothesis =>
      have stepped : step ⟨tokens, .atom read⟩ c = some ⟨tokens, .atom (c :: read)⟩ := by
        simp [step, atomChars c List.mem_cons_self]
      have passed : text.foldlM step ⟨tokens, .atom (c :: read)⟩ =
          some ⟨tokens, .atom (text.reverse ++ c :: read)⟩ :=
        inductionHypothesis fun c member => atomChars c (List.mem_cons_of_mem _ member)
      rw [List.foldlM_cons, stepped, List.reverse_cons, List.append_assoc]
      exact passed

theorem stepGap_of_isAtomChar {c : Char} (atomChar : isAtomChar c = true) :
    stepGap tokens c = some ⟨tokens, .atom [c]⟩ := by
  have noBlank : isJsonBlank c = false := by
    apply Bool.eq_false_iff.mpr
    intro blank
    rw [isAtomChar_eq_false_of_blank blank] at atomChar
    cases atomChar
  have noQuote : c ≠ '"' := by
    rintro rfl
    cases atomChar
  simp [stepGap, noBlank, noQuote, atomChar]

/-- An atom ends where a character follows that cannot be part of it, and has to denote a
value. -/
theorem tokensFrom_atom_eq_bind {text : List Char} (nonempty : text ≠ [])
    (atomChars : ∀ c ∈ text, isAtomChar c = true) (ends : EndsAtom rest) :
    tokensFrom ⟨tokens, .gap⟩ (text ++ rest) =
      (atomValue? text).bind fun value => tokensFrom ⟨.atom value :: tokens, .gap⟩ rest := by
  obtain ⟨first, more, rfl⟩ := List.exists_cons_of_ne_nil nonempty
  have started : step ⟨tokens, .gap⟩ first = some ⟨tokens, .atom [first]⟩ :=
    stepGap_of_isAtomChar (atomChars first List.mem_cons_self)
  have passed : (first :: more).foldlM step ⟨tokens, .gap⟩ =
      some ⟨tokens, .atom (more.reverse ++ [first])⟩ := by
    rw [List.foldlM_cons, started]
    exact foldlM_step_atom fun c member => atomChars c (List.mem_cons_of_mem _ member)
  have closed : closeAtom tokens (more.reverse ++ [first]) =
      (atomValue? (first :: more)).map fun value => .atom value :: tokens := by
    simp [closeAtom]
  rw [tokensFrom_append passed]
  cases rest with
  | nil => cases denoted : atomValue? (first :: more) <;> simp [tokensFrom, finish, closed, denoted]
  | cons c rest =>
      have noAtomChar : isAtomChar c = false := ends c rfl
      cases denoted : atomValue? (first :: more) <;>
        simp [tokensFrom, step, noAtomChar, closed, denoted]

theorem tokensFrom_atom {text : List Char} {value : Json}
    (nonempty : text ≠ []) (atomChars : ∀ c ∈ text, isAtomChar c = true)
    (denotes : atomValue? text = some value) (ends : EndsAtom rest) :
    tokensFrom ⟨tokens, .gap⟩ (text ++ rest) =
      tokensFrom ⟨.atom value :: tokens, .gap⟩ rest := by
  rw [tokensFrom_atom_eq_bind nonempty atomChars ends, denotes]
  rfl

/-! #### Strings -/

theorem tokensFrom_jsonString (content : String) :
    tokensFrom ⟨tokens, .gap⟩ (jsonString content ++ rest) =
      tokensFrom ⟨.string content :: tokens, .gap⟩ rest := by
  rw [jsonString, List.cons_append, List.cons_append, List.append_assoc]
  exact tokensFrom_string (spells_flatMap_jsonEscape content.toList)

/-! #### Values -/

/-- The text of `value`, at any depth, is read as the tokens of `value`. -/
def Splits (layout : Layout) (value : Json) : Prop :=
  ∀ (depth : Nat) (tokens : List Token) (rest : List Char), EndsAtom rest →
    tokensFrom ⟨tokens, .gap⟩ (value.chars layout depth ++ rest) =
      tokensFrom ⟨value.tokens.reverse ++ tokens, .gap⟩ rest

variable {layout : Layout}

theorem splits_of_atom {text : List Char} {value : Json}
    (written : ∀ depth, value.chars layout depth = text) (denotes : atomValue? text = some value)
    (isAtom : value.tokens = [.atom value]) (nonempty : text ≠ [])
    (atomChars : ∀ c ∈ text, isAtomChar c = true) : Splits layout value := by
  intro depth tokens rest ends
  rw [written, isAtom]
  exact tokensFrom_atom nonempty atomChars denotes ends

theorem tokensFrom_moreElements {elements : List Json}
    (inner : ∀ element ∈ elements, Splits layout element) (depth : Nat) (tokens : List Token)
    (ends : EndsAtom rest) :
    tokensFrom ⟨tokens, .gap⟩ (Json.moreElements layout depth elements ++ rest) =
      tokensFrom ⟨(Json.elementTokens elements).reverse ++ tokens, .gap⟩ rest := by
  induction elements generalizing tokens with
  | nil => rfl
  | cons element elements inductionHypothesis =>
      obtain ⟨first, others⟩ := List.forall_mem_cons.mp inner
      simp only [Json.moreElements, Json.elementTokens, List.cons_append, List.append_assoc]
      rw [tokensFrom_punctuation rfl, tokensFrom_lineBreak,
        first _ _ _ (ends.moreElements layout depth elements), inductionHypothesis others]
      simp

theorem tokensFrom_moreMembers {members : List (String × Json)}
    (inner : ∀ member ∈ members, Splits layout member.2) (depth : Nat) (tokens : List Token)
    (ends : EndsAtom rest) :
    tokensFrom ⟨tokens, .gap⟩ (Json.moreMembers layout depth members ++ rest) =
      tokensFrom ⟨(Json.memberTokens members).reverse ++ tokens, .gap⟩ rest := by
  induction members generalizing tokens with
  | nil => rfl
  | cons member members inductionHypothesis =>
      obtain ⟨first, others⟩ := List.forall_mem_cons.mp inner
      simp only [Json.moreMembers, Json.memberTokens, List.cons_append, List.append_assoc]
      rw [tokensFrom_punctuation rfl, tokensFrom_lineBreak, tokensFrom_jsonString,
        tokensFrom_colon, first _ _ _ (ends.moreMembers layout depth members),
        inductionHypothesis others]
      simp

theorem splits_array {elements : List Json}
    (inner : ∀ element ∈ elements, Splits layout element) : Splits layout (.array elements) := by
  intro depth tokens rest ends
  cases elements with
  | nil => exact (tokensFrom_punctuation rfl).trans (tokensFrom_punctuation rfl)
  | cons element elements =>
      obtain ⟨first, others⟩ := List.forall_mem_cons.mp inner
      have closes : EndsAtom (layout.lineBreak depth ++ ']' :: rest) :=
        (EndsAtom.cons rfl).lineBreak layout depth
      simp only [Json.chars, Json.tokens, List.cons_append, List.append_assoc, List.nil_append]
      rw [tokensFrom_punctuation rfl, tokensFrom_lineBreak,
        first _ _ _ (closes.moreElements layout (depth + 1) elements),
        tokensFrom_moreElements others _ _ closes, tokensFrom_lineBreak,
        tokensFrom_punctuation rfl]
      simp

theorem splits_object {members : List (String × Json)}
    (inner : ∀ member ∈ members, Splits layout member.2) : Splits layout (.object members) := by
  intro depth tokens rest ends
  cases members with
  | nil => exact (tokensFrom_punctuation rfl).trans (tokensFrom_punctuation rfl)
  | cons member members =>
      obtain ⟨first, others⟩ := List.forall_mem_cons.mp inner
      have closes : EndsAtom (layout.lineBreak depth ++ '\x7d' :: rest) :=
        (EndsAtom.cons rfl).lineBreak layout depth
      simp only [Json.chars, Json.tokens, List.cons_append, List.append_assoc, List.nil_append]
      rw [tokensFrom_punctuation rfl, tokensFrom_lineBreak, tokensFrom_jsonString,
        tokensFrom_colon, first _ _ _ (closes.moreMembers layout (depth + 1) members),
        tokensFrom_moreMembers others _ _ closes, tokensFrom_lineBreak,
        tokensFrom_punctuation rfl]
      simp

/-- A value that a text can stand for is split into its tokens. -/
theorem splits_of_writable {room : Nat} {value : Json} (writable : value.Writable room) :
    Splits layout value := by
  induction writable with
  | null => exact splits_of_atom (fun _ => rfl) rfl rfl (by simp) (List.all_eq_true.mp rfl)
  | bool truth =>
      cases truth with
      | true => exact splits_of_atom (fun _ => rfl) rfl rfl (by simp) (List.all_eq_true.mp rfl)
      | false => exact splits_of_atom (fun _ => rfl) rfl rfl (by simp) (List.all_eq_true.mp rfl)
  | @integer _ value low high =>
      exact splits_of_atom (fun _ => rfl) (atomValue?_integerChars low high) rfl
        (integerChars_ne_nil value) isAtomChar_of_mem_integerChars
  | string content =>
      intro depth tokens rest ends
      exact tokensFrom_jsonString content
  | array inner inductionHypothesis => exact splits_array inductionHypothesis
  | object inner inductionHypothesis => exact splits_object inductionHypothesis

end Lexer

theorem Token.ofChars?_eq (text : List Char) :
    Token.ofChars? text = (Lexer.start.tokensFrom text).map List.reverse :=
  Option.map_bind.symm

/-- The text of a value consists of the tokens of the value. -/
theorem Token.ofChars?_chars {room : Nat} {value : Json} (writable : value.Writable room)
    (layout : Layout) (depth : Nat) :
    Token.ofChars? (value.chars layout depth) = some value.tokens := by
  have splits : Lexer.Splits layout value := Lexer.splits_of_writable writable
  have split : Lexer.start.tokensFrom (value.chars layout depth) = some value.tokens.reverse := by
    have ended := splits depth [] [] EndsAtom.nil
    rw [List.append_nil, List.append_nil] at ended
    exact ended
  rw [Token.ofChars?_eq, split, Option.map_some, List.reverse_reverse]

end CardCodex
