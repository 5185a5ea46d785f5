/-
Module: CardCodex.Command.Describe
Purpose: Describing a value as held by a tag.
Main exports: DescribeError, describe
-/
import CardCodex.Enumeration.Codebook
import CardCodex.Tag.Kind

namespace CardCodex

/-- Why a value cannot be described. -/
inductive DescribeError where
  | unknownTag (cause : LookupError)
  | notAnInteger (text : String)
deriving DecidableEq, Repr

/-- The error in words. -/
def DescribeError.message : DescribeError → String
  | .unknownTag cause => cause.message
  | .notAnInteger text => "`" ++ text ++ "` is not an integer"

/-- `value` as held by `tag`: the name and the category of the tag and the
integer, with the enumeration and the name of the item when the tag has one. -/
def describeValue (tag : GameTag) (value : Int32) : String :=
  let head := Enumeration.itemName tag ++ ": " ++ Enumeration.itemName tag.category
  match tag.directory? with
  | some directory =>
      head ++ " " ++ directory.enumName ++ ", " ++ writtenInteger value.toInt ++ " = "
        ++ tag.renderValue value
  | none => head ++ ", " ++ writtenInteger value.toInt

/-- Describes the integer that a text denotes as held by the tag called
`tagName` in any ASCII casing.  The tag is looked up first. -/
def describe (tagName text : String) : Except DescribeError String :=
  match Enumeration.parse GameTag tagName with
  | .error cause => .error (.unknownTag cause)
  | .ok tag =>
      match readWord? text with
      | none => .error (.notAnInteger text)
      | some value => .ok (describeValue tag value)

end CardCodex
