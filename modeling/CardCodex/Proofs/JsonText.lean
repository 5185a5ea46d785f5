/-
Module: CardCodex.Proofs.JsonText
Purpose: The reader rebuilds a value from its tokens, so that a written JSON text is read
  back as the value it was written from.
Main exports: Reader.Rebuilds, Reader.rebuilds_of_writable, Json.parse?_written
-/
import CardCodex.Json.Reader
import CardCodex.Proofs.JsonTokens

namespace CardCodex

namespace Reader

/-- The tokens of `value` put it in its place, wherever `room` more containers
may be opened. -/
def Rebuilds (room : Nat) (value : Json) : Prop :=
  ∀ containers : List OpenContainer, containers.length + room ≤ maxDepth →
    value.tokens.foldlM step ⟨containers, .value⟩ = complete containers value

theorem foldlM_step_cons {reader next : Reader} {token : Token} {rest : List Token}
    (stepped : reader.step token = some next) :
    (token :: rest).foldlM step reader = rest.foldlM step next := by
  rw [List.foldlM_cons, stepped]
  rfl

theorem foldlM_step_append {reader next : Reader} {tokens rest : List Token}
    (passed : tokens.foldlM step reader = some next) :
    (tokens ++ rest).foldlM step reader = rest.foldlM step next := by
  rw [List.foldlM_append, passed]
  rfl

theorem foldlM_step_singleton (reader : Reader) (token : Token) :
    [token].foldlM step reader = reader.step token := by
  rw [List.foldlM_cons]
  exact Option.bind_fun_some _

/-- No value starts with a closing bracket, so the first element of an array is
read as any other. -/
theorem foldlM_step_firstElement (containers : List OpenContainer) (value : Json)
    (rest : List Token) :
    (value.tokens ++ rest).foldlM step ⟨containers, .firstElement⟩ =
      (value.tokens ++ rest).foldlM step ⟨containers, .value⟩ := by
  cases value with
  | null => rfl
  | bool truth => rfl
  | integer value => rfl
  | float literal => rfl
  | string content => rfl
  | array elements =>
      cases elements with
      | nil => rfl
      | cons element elements => rfl
  | object members =>
      cases members with
      | nil => rfl
      | cons member members => rfl

section Containers

variable {room : Nat} {outer : List OpenContainer}

theorem openContainer_eq (container : OpenContainer) (expected : Expected)
    (fits : outer.length + (room + 1) ≤ maxDepth) :
    openContainer outer container expected = some ⟨container :: outer, expected⟩ := by
  apply if_pos
  omega

/-- What is open once a container has been opened leaves the room inside it. -/
theorem length_cons_add_le (container : OpenContainer)
    (fits : outer.length + (room + 1) ≤ maxDepth) :
    (container :: outer).length + room ≤ maxDepth := by
  rw [List.length_cons]
  omega

/-- A key and its colon make the value that follows a member. -/
theorem foldlM_step_key {earlier : List (String × Json)} {key : String} {expected : Expected}
    {rest : List Token}
    (taken : step ⟨.object earlier :: outer, expected⟩ (.string key) =
      some ⟨.object earlier :: outer, .colon key⟩) :
    (.string key :: .colon :: rest).foldlM step ⟨.object earlier :: outer, expected⟩ =
      rest.foldlM step ⟨.member earlier key :: outer, .value⟩ :=
  (foldlM_step_cons taken).trans (foldlM_step_cons rfl)

/-- The elements after the first one join those that an array holds. -/
theorem foldlM_step_elementTokens {elements : List Json}
    (inner : ∀ element ∈ elements, Rebuilds room element)
    (fits : outer.length + (room + 1) ≤ maxDepth) (earlier : List Json) :
    (Json.elementTokens elements).foldlM step ⟨.array earlier :: outer, .separator⟩ =
      some ⟨.array (elements.reverse ++ earlier) :: outer, .separator⟩ := by
  induction elements generalizing earlier with
  | nil => rfl
  | cons element elements inductionHypothesis =>
      obtain ⟨head, others⟩ := List.forall_mem_cons.mp inner
      have first : element.tokens.foldlM step ⟨.array earlier :: outer, .value⟩ =
          some ⟨.array (element :: earlier) :: outer, .separator⟩ :=
        head _ (length_cons_add_le _ fits)
      rw [Json.elementTokens, List.cons_append, foldlM_step_cons rfl, foldlM_step_append first,
        inductionHypothesis others, List.reverse_cons, List.append_assoc]
      rfl

/-- The members after the first one join those that an object holds. -/
theorem foldlM_step_memberTokens {members : List (String × Json)}
    (inner : ∀ member ∈ members, Rebuilds room member.2)
    (fits : outer.length + (room + 1) ≤ maxDepth) (earlier : List (String × Json)) :
    (Json.memberTokens members).foldlM step ⟨.object earlier :: outer, .separator⟩ =
      some ⟨.object (members.reverse ++ earlier) :: outer, .separator⟩ := by
  induction members generalizing earlier with
  | nil => rfl
  | cons member members inductionHypothesis =>
      obtain ⟨head, others⟩ := List.forall_mem_cons.mp inner
      have first : member.2.tokens.foldlM step ⟨.member earlier member.1 :: outer, .value⟩ =
          some ⟨.object (member :: earlier) :: outer, .separator⟩ :=
        head _ (length_cons_add_le _ fits)
      simp only [Json.memberTokens, List.cons_append]
      rw [foldlM_step_cons rfl, foldlM_step_key rfl, foldlM_step_append first,
        inductionHypothesis others, List.reverse_cons, List.append_assoc]
      rfl

theorem rebuilds_array {elements : List Json}
    (inner : ∀ element ∈ elements, Rebuilds room element) :
    Rebuilds (room + 1) (.array elements) := by
  intro containers fits
  have opened : step ⟨containers, .value⟩ .openBracket =
      some ⟨.array [] :: containers, .firstElement⟩ := openContainer_eq _ _ fits
  cases elements with
  | nil => exact (foldlM_step_cons opened).trans (foldlM_step_singleton _ _)
  | cons element elements =>
      obtain ⟨head, others⟩ := List.forall_mem_cons.mp inner
      have first : element.tokens.foldlM step ⟨.array [] :: containers, .value⟩ =
          some ⟨.array [element] :: containers, .separator⟩ :=
        head _ (length_cons_add_le _ fits)
      have closed : step ⟨.array (elements.reverse ++ [element]) :: containers, .separator⟩
          .closeBracket = complete containers (.array (element :: elements)) := by
        simp [step, closeArray]
      simp only [Json.tokens, List.cons_append, List.append_assoc]
      rw [foldlM_step_cons opened, foldlM_step_firstElement, foldlM_step_append first,
        foldlM_step_append (foldlM_step_elementTokens others fits [element]),
        foldlM_step_singleton, closed]

theorem rebuilds_object {members : List (String × Json)}
    (inner : ∀ member ∈ members, Rebuilds room member.2) :
    Rebuilds (room + 1) (.object members) := by
  intro containers fits
  have opened : step ⟨containers, .value⟩ .openBrace =
      some ⟨.object [] :: containers, .firstKey⟩ := openContainer_eq _ _ fits
  cases members with
  | nil => exact (foldlM_step_cons opened).trans (foldlM_step_singleton _ _)
  | cons member members =>
      obtain ⟨head, others⟩ := List.forall_mem_cons.mp inner
      have first : member.2.tokens.foldlM step ⟨.member [] member.1 :: containers, .value⟩ =
          some ⟨.object [member] :: containers, .separator⟩ :=
        head _ (length_cons_add_le _ fits)
      have closed : step ⟨.object (members.reverse ++ [member]) :: containers, .separator⟩
          .closeBrace = complete containers (.object (member :: members)) := by
        simp [step, closeObject]
      simp only [Json.tokens, List.cons_append, List.append_assoc]
      rw [foldlM_step_cons opened, foldlM_step_key rfl, foldlM_step_append first,
        foldlM_step_append (foldlM_step_memberTokens others fits [member]),
        foldlM_step_singleton, closed]

end Containers

/-- A value that a text can stand for is rebuilt from its tokens. -/
theorem rebuilds_of_writable {room : Nat} {value : Json} (writable : value.Writable room) :
    Rebuilds room value := by
  induction writable with
  | null => exact fun _ _ => foldlM_step_singleton _ _
  | bool truth => exact fun _ _ => foldlM_step_singleton _ _
  | integer low high => exact fun _ _ => foldlM_step_singleton _ _
  | string content => exact fun _ _ => foldlM_step_singleton _ _
  | array inner inductionHypothesis => exact rebuilds_array inductionHypothesis
  | object inner inductionHypothesis => exact rebuilds_object inductionHypothesis

end Reader

namespace Json

theorem ofTokens?_tokens {value : Json} (writable : value.Writable maxDepth) :
    ofTokens? value.tokens = some value := by
  have rebuilt : value.tokens.foldlM Reader.step Reader.start = some ⟨[], .nothing value⟩ :=
    Reader.rebuilds_of_writable writable [] (Nat.zero_add maxDepth).le
  rw [ofTokens?, rebuilt]
  rfl

/-- A written text is read back as the value it was written from, in either
layout. -/
theorem parse?_written {value : Json} (writable : value.Writable maxDepth) (layout : Layout) :
    parse? (written layout value) = some value := by
  rw [parse?, written, String.toList_ofList, Token.ofChars?_chars writable]
  exact ofTokens?_tokens writable

end Json

end CardCodex
