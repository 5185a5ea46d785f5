/-
Module: CardCodex.Json.Writer
Purpose: JSON values as text, either compact or laid out over several lines.
Main exports: Layout, Json.written
-/
import CardCodex.Json.Value

namespace CardCodex

/-- How a JSON text is laid out: without any space, or with one element or
member to a line and two spaces of indentation for each level. -/
inductive Layout where
  | compact
  | indented
deriving DecidableEq, Repr

namespace Layout

/-- The line break before a part at nesting depth `depth`. -/
def lineBreak : Layout → Nat → List Char
  | .compact, _ => []
  | .indented, depth => '\n' :: List.replicate (2 * depth) ' '

/-- What stands between a key and its value. -/
def colon : Layout → List Char
  | .compact => [':']
  | .indented => [':', ' ']

end Layout

/-- How a character of a string is written: the quote, the backslash and the
control characters are escaped, all others stand for themselves. -/
def jsonEscape (c : Char) : List Char :=
  if c = '"' then ['\\', '"']
  else if c = '\\' then ['\\', '\\']
  else if c = '\x08' then ['\\', 'b']
  else if c = '\x0c' then ['\\', 'f']
  else if c = '\n' then ['\\', 'n']
  else if c = '\r' then ['\\', 'r']
  else if c = '\t' then ['\\', 't']
  else if c.toNat < 0x20 then
    ['\\', 'u', '0', '0', Nat.digitChar (c.toNat / 16), Nat.digitChar (c.toNat % 16)]
  else [c]

/-- A string with its quotes. -/
def jsonString (content : String) : List Char :=
  '"' :: content.toList.flatMap jsonEscape ++ ['"']

namespace Json

mutual

/-- A value as text, when the line it starts on is at nesting depth `depth`. -/
def chars (layout : Layout) (depth : Nat) : Json → List Char
  | .null => ['n', 'u', 'l', 'l']
  | .bool true => ['t', 'r', 'u', 'e']
  | .bool false => ['f', 'a', 'l', 's', 'e']
  | .integer value => integerChars value
  | .float literal => literal.toList
  | .string content => jsonString content
  | .array [] => ['[', ']']
  | .array (element :: rest) =>
      '[' :: layout.lineBreak (depth + 1) ++ chars layout (depth + 1) element
        ++ moreElements layout (depth + 1) rest ++ layout.lineBreak depth ++ [']']
  | .object [] => ['\x7b', '\x7d']
  | .object ((key, value) :: rest) =>
      '\x7b' :: layout.lineBreak (depth + 1) ++ jsonString key ++ layout.colon
        ++ chars layout (depth + 1) value ++ moreMembers layout (depth + 1) rest
        ++ layout.lineBreak depth ++ ['\x7d']

/-- The elements after the first one. -/
def moreElements (layout : Layout) (depth : Nat) : List Json → List Char
  | [] => []
  | element :: rest =>
      ',' :: layout.lineBreak depth ++ chars layout depth element
        ++ moreElements layout depth rest

/-- The members after the first one. -/
def moreMembers (layout : Layout) (depth : Nat) : List (String × Json) → List Char
  | [] => []
  | (key, value) :: rest =>
      ',' :: layout.lineBreak depth ++ jsonString key ++ layout.colon
        ++ chars layout depth value ++ moreMembers layout depth rest

end

/-- The text of a value. -/
def written (layout : Layout) (value : Json) : String :=
  String.ofList (value.chars layout 0)

end Json

end CardCodex
