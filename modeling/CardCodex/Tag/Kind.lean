/-
Module: CardCodex.Tag.Kind
Purpose: What kind of value each tag has, and how the value of a tag is named.
Main exports: TagKind, GameTag.kind, GameTag.directory?, GameTag.renderValue
-/
import CardCodex.Enumeration.Directory

namespace CardCodex

/-- The kind of value that a tag has: an item of an enumeration, or something
else that a category describes. -/
inductive TagKind where
  | scalar (category : Category)
  | item (id : EnumId)
deriving DecidableEq, Repr

namespace TagKind

/-- The category of the values of a kind. -/
def category : TagKind → Category
  | .scalar category => category
  | .item _ => .enum

/-- The enumeration that the values of a kind are drawn from. -/
def enumId? : TagKind → Option EnumId
  | .scalar _ => none
  | .item id => some id

end TagKind

/-- What stands for an item whose name is not available. -/
def unknownName : String :=
  "UNKNOWN"

namespace GameTag

/-- The kind of value of a tag.  A tag without an entry of its own is a number. -/
def kind : GameTag → TagKind
  | .tribe => .item .tribe
  | .cardType => .item .cardType
  | .step => .item .step
  | .zone => .item .zone
  | .controller => .scalar .player
  | .name | .text | .cardId => .scalar .string
  | .declaredAttack | .declaredIntercept => .scalar .entity
  | _ => .scalar .number

/-- The category of the value of a tag. -/
def category (tag : GameTag) : Category :=
  tag.kind.category

/-- Whether the value of a tag is a text. -/
def isText (tag : GameTag) : Bool :=
  tag.category == .string

/-- The directory of the enumeration that the values of a tag are drawn from. -/
def directory? (tag : GameTag) : Option Directory :=
  tag.kind.enumId?.map EnumId.directory

/-- The tags whose values are shown by name.  A tag is shown by name only when
it is listed here, whatever its kind. -/
def rendered : List GameTag :=
  [.tribe, .cardType, .step, .zone]

/-- The directory in which the value of a tag is named when it is shown. -/
def renderedDirectory? : GameTag → Option Directory
  | .tribe => some (.declared Tribe)
  | .cardType => some (.declared CardType)
  | .step => some (.declared Step)
  | .zone => some (.declared Zone)
  | _ => none

/-- The name to show for `value` as held by `tag`; `unknownName` when the tag is
not shown by name or the value is no item. -/
def renderValue (tag : GameTag) (value : Int32) : String :=
  match tag.renderedDirectory? with
  | none => unknownName
  | some directory =>
      match directory.nameOf value with
      | .ok found => found
      | .error _ => unknownName

end GameTag

end CardCodex
