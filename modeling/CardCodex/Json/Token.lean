/-
Module: CardCodex.Json.Token
Purpose: The tokens of a JSON text, read one character at a time.
Main exports: Token, Lexer, Lexer.step, Token.ofChars?
-/
import CardCodex.Json.Number

namespace CardCodex

/-- A token of a JSON text.  An atom is a number or one of the words `null`,
`true` and `false`. -/
inductive Token where
  | openBrace
  | closeBrace
  | openBracket
  | closeBracket
  | colon
  | comma
  | atom (value : Json)
  | string (content : String)
deriving Repr

/-- Where the reading of a string stands: between characters, after a
backslash, within the four digits of a code unit, or in one of the places where
the low half of a surrogate pair has to follow its high half. -/
inductive StringState where
  | plain
  | escape
  | unit (digits value : Nat)
  | lowBackslash (high : Nat)
  | lowLetter (high : Nat)
  | lowUnit (high digits value : Nat)
deriving DecidableEq, Repr

/-- What a lexer is in the middle of: nothing, an atom, or a string.  Characters
read so far come last first. -/
inductive Pending where
  | gap
  | atom (read : List Char)
  | string (read : List Char) (state : StringState)
deriving DecidableEq, Repr

/-- A lexer part way through a text, with its tokens last first. -/
structure Lexer where
  tokens : List Token
  pending : Pending
deriving Repr

/-- Whether a character separates tokens and means nothing else. -/
def isJsonBlank (c : Char) : Bool :=
  c == ' ' || c == '\t' || c == '\n' || c == '\r'

/-- Whether a character can be part of an atom. -/
def isAtomChar (c : Char) : Bool :=
  c.isAlphanum || c == '-' || c == '+' || c == '.'

/-- The token that is a single character. -/
def Token.punctuation? (c : Char) : Option Token :=
  if c = '\x7b' then some .openBrace
  else if c = '\x7d' then some .closeBrace
  else if c = '[' then some .openBracket
  else if c = ']' then some .closeBracket
  else if c = ':' then some .colon
  else if c = ',' then some .comma
  else none

/-- The value of a complete atom. -/
def atomValue? (text : List Char) : Option Json :=
  if text = ['n', 'u', 'l', 'l'] then some .null
  else if text = ['t', 'r', 'u', 'e'] then some (.bool true)
  else if text = ['f', 'a', 'l', 's', 'e'] then some (.bool false)
  else (Numeral.ofChars? text).bind Numeral.value?

/-- The character that a short escape stands for. -/
def shortEscape? (c : Char) : Option Char :=
  if c = '"' then some '"'
  else if c = '\\' then some '\\'
  else if c = '/' then some '/'
  else if c = 'b' then some '\x08'
  else if c = 'f' then some '\x0c'
  else if c = 'n' then some '\n'
  else if c = 'r' then some '\r'
  else if c = 't' then some '\t'
  else none

/-- The value of a hexadecimal digit. -/
def hexValue? (c : Char) : Option Nat :=
  if c.isDigit then some (c.toNat - '0'.toNat)
  else if 'a' ≤ c ∧ c ≤ 'f' then some (c.toNat - 'a'.toNat + 10)
  else if 'A' ≤ c ∧ c ≤ 'F' then some (c.toNat - 'A'.toNat + 10)
  else none

/-- Whether a code unit is the high half of a surrogate pair. -/
def isHighSurrogate (unit : Nat) : Bool :=
  0xD800 ≤ unit && unit < 0xDC00

/-- Whether a code unit is the low half of a surrogate pair. -/
def isLowSurrogate (unit : Nat) : Bool :=
  0xDC00 ≤ unit && unit < 0xE000

/-- The character of a surrogate pair. -/
def pairedChar (high low : Nat) : Char :=
  Char.ofNat (0x10000 + (high - 0xD800) * 0x400 + (low - 0xDC00))

/-- Takes a complete code unit into a string: half of a pair waits for the other
half, and a low half on its own is refused. -/
def takeUnit (read : List Char) (unit : Nat) : Option Pending :=
  if isHighSurrogate unit then some (.string read (.lowBackslash unit))
  else if isLowSurrogate unit then none
  else some (.string (Char.ofNat unit :: read) .plain)

/-- Takes the second code unit of a pair into a string. -/
def takeLowUnit (read : List Char) (high low : Nat) : Option Pending :=
  if isLowSurrogate low then some (.string (pairedChar high low :: read) .plain) else none

/-- Reads one character inside a string that it does not close. -/
def stepString (read : List Char) (state : StringState) (c : Char) : Option Pending :=
  match state with
  | .plain =>
      if c = '\\' then some (.string read .escape)
      else if c.toNat < 0x20 then none
      else some (.string (c :: read) .plain)
  | .escape =>
      if c = 'u' then some (.string read (.unit 0 0))
      else (shortEscape? c).map fun meant => .string (meant :: read) .plain
  | .unit digits value => do
      let next := 16 * value + (← hexValue? c)
      if digits = 3 then takeUnit read next else some (.string read (.unit (digits + 1) next))
  | .lowBackslash high =>
      if c = '\\' then some (.string read (.lowLetter high)) else none
  | .lowLetter high =>
      if c = 'u' then some (.string read (.lowUnit high 0 0)) else none
  | .lowUnit high digits value => do
      let next := 16 * value + (← hexValue? c)
      if digits = 3 then takeLowUnit read high next
      else some (.string read (.lowUnit high (digits + 1) next))

namespace Lexer

/-- A lexer before the first character. -/
def start : Lexer :=
  ⟨[], .gap⟩

/-- Reads one character between tokens. -/
def stepGap (tokens : List Token) (c : Char) : Option Lexer :=
  if isJsonBlank c then some ⟨tokens, .gap⟩
  else if c = '"' then some ⟨tokens, .string [] .plain⟩
  else if isAtomChar c then some ⟨tokens, .atom [c]⟩
  else (Token.punctuation? c).map fun token => ⟨token :: tokens, .gap⟩

/-- The tokens once a complete atom has joined them. -/
def closeAtom (tokens : List Token) (read : List Char) : Option (List Token) :=
  (atomValue? read.reverse).map fun value => .atom value :: tokens

/-- Reads one character. -/
def step (lexer : Lexer) (c : Char) : Option Lexer :=
  match lexer.pending with
  | .gap => stepGap lexer.tokens c
  | .atom read =>
      if isAtomChar c then some ⟨lexer.tokens, .atom (c :: read)⟩
      else do stepGap (← closeAtom lexer.tokens read) c
  | .string read state =>
      if c = '"' ∧ state = .plain then
        some ⟨.string (String.ofList read.reverse) :: lexer.tokens, .gap⟩
      else
        (stepString read state c).map fun pending => ⟨lexer.tokens, pending⟩

/-- The tokens read, last first, when the text may end here. -/
def finish (lexer : Lexer) : Option (List Token) :=
  match lexer.pending with
  | .gap => some lexer.tokens
  | .atom read => closeAtom lexer.tokens read
  | .string _ _ => none

end Lexer

/-- The tokens of a text; none when some part of it is no token. -/
def Token.ofChars? (text : List Char) : Option (List Token) := do
  let lexer ← text.foldlM Lexer.step Lexer.start
  lexer.finish.map List.reverse

end CardCodex
