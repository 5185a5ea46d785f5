/-
Module: CardCodex.Json.Reader
Purpose: JSON values from their tokens, with a limit on how deep they nest.
Main exports: Reader, Reader.step, Json.ofTokens?, Json.parse?
-/
import CardCodex.Json.Token

namespace CardCodex

/-- A container that is open.  What it holds so far comes last first; a member
is a key that waits for its value. -/
inductive OpenContainer where
  | array (elements : List Json)
  | object (members : List (String × Json))
  | member (members : List (String × Json)) (key : String)
deriving Repr

/-- What has to come next in a text. -/
inductive Expected where
  | value
  | firstElement
  | firstKey
  | key
  | colon (key : String)
  | separator
  | nothing (value : Json)
deriving Repr

/-- A reader part way through a text: the open containers, innermost first, and
what has to come next. -/
structure Reader where
  containers : List OpenContainer
  expected : Expected
deriving Repr

/-- How many containers may be open at a time. -/
def maxDepth : Nat :=
  127

namespace Reader

/-- A reader before the first token. -/
def start : Reader :=
  ⟨[], .value⟩

/-- Puts a complete value where it belongs. -/
def complete (containers : List OpenContainer) (value : Json) : Option Reader :=
  match containers with
  | [] => some ⟨[], .nothing value⟩
  | .array elements :: outer => some ⟨.array (value :: elements) :: outer, .separator⟩
  | .member members key :: outer =>
      some ⟨.object ((key, value) :: members) :: outer, .separator⟩
  | .object _ :: _ => none

/-- Opens a container, unless too many are open. -/
def openContainer (containers : List OpenContainer) (container : OpenContainer)
    (expected : Expected) : Option Reader :=
  if containers.length < maxDepth then some ⟨container :: containers, expected⟩ else none

/-- Reads a token where a value has to come. -/
def stepValue (containers : List OpenContainer) : Token → Option Reader
  | .openBrace => openContainer containers (.object []) .firstKey
  | .openBracket => openContainer containers (.array []) .firstElement
  | .atom value => complete containers value
  | .string content => complete containers (.string content)
  | .closeBrace | .closeBracket | .colon | .comma => none

/-- Closes the innermost array. -/
def closeArray : List OpenContainer → Option Reader
  | .array elements :: outer => complete outer (.array elements.reverse)
  | _ => none

/-- Closes the innermost object. -/
def closeObject : List OpenContainer → Option Reader
  | .object members :: outer => complete outer (.object members.reverse)
  | _ => none

/-- Goes on to the next part of the innermost container. -/
def afterComma : List OpenContainer → Option Reader
  | .array elements :: outer => some ⟨.array elements :: outer, .value⟩
  | .object members :: outer => some ⟨.object members :: outer, .key⟩
  | _ => none

/-- Takes a key, and then its colon, into the innermost object. -/
def awaitValue (key : String) : List OpenContainer → Option Reader
  | .object members :: outer => some ⟨.member members key :: outer, .value⟩
  | _ => none

/-- Reads one token. -/
def step (reader : Reader) (token : Token) : Option Reader :=
  match reader.expected, token with
  | .value, token => stepValue reader.containers token
  | .firstElement, .closeBracket => closeArray reader.containers
  | .firstElement, token => stepValue reader.containers token
  | .firstKey, .closeBrace => closeObject reader.containers
  | .firstKey, .string key => some ⟨reader.containers, .colon key⟩
  | .key, .string key => some ⟨reader.containers, .colon key⟩
  | .colon key, .colon => awaitValue key reader.containers
  | .separator, .comma => afterComma reader.containers
  | .separator, .closeBracket => closeArray reader.containers
  | .separator, .closeBrace => closeObject reader.containers
  | _, _ => none

/-- The value read, when the text may end here. -/
def finish (reader : Reader) : Option Json :=
  match reader.expected with
  | .nothing value => some value
  | _ => none

end Reader

namespace Json

/-- The value of a list of tokens. -/
def ofTokens? (tokens : List Token) : Option Json := do
  let reader ← tokens.foldlM Reader.step Reader.start
  reader.finish

/-- The value of a JSON text; none when the text is not JSON, nests too deeply
or holds a number that is huge. -/
def parse? (text : String) : Option Json := do
  let tokens ← Token.ofChars? text.toList
  ofTokens? tokens

end Json

end CardCodex
