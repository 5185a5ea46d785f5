/-
Module: CardCodex.Enumeration.Directory
Purpose: Names and values of an enumeration for callers that know it only while
  the program runs, and the directories of the declared enumerations.
Main exports: Directory, Directory.ofTables, Directory.ofItems, EnumId.directory
-/
import CardCodex.Assoc
import CardCodex.Enumeration.Items
import CardCodex.Text.Quoted

namespace CardCodex

/-- The names and values of an enumeration whose item type is left open.
`entries` lists the items in ascending order of value. -/
structure Directory where
  enumName : String
  valueByName : Assoc String Int32
  nameByValue : Assoc Int32 String
  entries : List (String × Int32)
deriving DecidableEq, Repr

namespace Directory

/-- The directory of two tables.  Each answers its own direction of lookup, and
the entries are those of `nameByValue`. -/
def ofTables (enumName : String) (valueByName : Assoc String Int32)
    (nameByValue : Assoc Int32 String) : Directory :=
  { enumName := enumName
    valueByName := valueByName
    nameByValue := nameByValue
    entries :=
      (nameByValue.entries.map fun entry => (entry.2, entry.1)).mergeSort
        fun first second => first.2 ≤ second.2 }

/-- The directory of a list of named items. -/
def ofItems {E : Type} [Enumeration E] (enumName : String) (items : List (String × E)) :
    Directory :=
  ofTables enumName
    (.ofList (items.map fun entry => (entry.1, Enumeration.value entry.2)))
    (.ofList (items.map fun entry => (Enumeration.value entry.2, entry.1)))

/-- The directory of the declared items of `E`. -/
def declared (E : Type) [Enumeration E] : Directory :=
  ofItems (Enumeration.name E) (Enumeration.declared E)

/-- The value of the item called `name` in any ASCII casing. -/
def valueOf (directory : Directory) (name : String) : Except LookupError Int32 :=
  match directory.valueByName.find? (canonical name) with
  | some value => .ok value
  | none => .error (.unknownName directory.enumName name)

/-- The name of the item with value `value`. -/
def nameOf (directory : Directory) (value : Int32) : Except LookupError String :=
  match directory.nameByValue.find? value with
  | some name => .ok name
  | none => .error (.unknownValue directory.enumName value)

/-- Whether some item has value `value`. -/
def contains (directory : Directory) (value : Int32) : Bool :=
  (directory.nameOf value).isOk

/-- The item of `E` called `name`, for callers that do know the item type.  The
value found must be one of `E`. -/
def itemOf (E : Type) [Enumeration E] (directory : Directory) (name : String) :
    Except LookupError E :=
  match directory.valueOf name with
  | .error reason => .error reason
  | .ok value =>
      match Enumeration.ofValue? E value with
      | some item => .ok item
      | none => .error (.unknownValue directory.enumName value)

/-- The name that the directory has for an item. -/
def nameOfItem {E : Type} [Enumeration E] (directory : Directory) (item : E) :
    Except LookupError String :=
  directory.nameOf (Enumeration.value item)

/-- The directory in one line, for diagnostics: its name and its entries. -/
def outline (directory : Directory) : String :=
  let entries := directory.entries.map fun entry =>
    "(" ++ quoted entry.1 ++ ", " ++ writtenInteger entry.2.toInt ++ ")"
  "TypeInfo \x7b enum_name: " ++ quoted directory.enumName ++ ", entries: ["
    ++ ", ".intercalate entries ++ "] \x7d"

end Directory

namespace EnumId

/-- The type of the items of an enumeration. -/
abbrev Item : EnumId → Type
  | .gameTag => GameTag
  | .blockType => BlockType
  | .cardType => CardType
  | .resourceType => ResourceType
  | .requirement => Requirement
  | .tribe => Tribe
  | .zone => Zone
  | .step => Step
  | .optionType => OptionType
  | .category => Category

instance instDecidableEqItem : (id : EnumId) → DecidableEq id.Item
  | .gameTag => inferInstanceAs (DecidableEq GameTag)
  | .blockType => inferInstanceAs (DecidableEq BlockType)
  | .cardType => inferInstanceAs (DecidableEq CardType)
  | .resourceType => inferInstanceAs (DecidableEq ResourceType)
  | .requirement => inferInstanceAs (DecidableEq Requirement)
  | .tribe => inferInstanceAs (DecidableEq Tribe)
  | .zone => inferInstanceAs (DecidableEq Zone)
  | .step => inferInstanceAs (DecidableEq Step)
  | .optionType => inferInstanceAs (DecidableEq OptionType)
  | .category => inferInstanceAs (DecidableEq Category)

instance instEnumerationItem : (id : EnumId) → Enumeration id.Item
  | .gameTag => inferInstanceAs (Enumeration GameTag)
  | .blockType => inferInstanceAs (Enumeration BlockType)
  | .cardType => inferInstanceAs (Enumeration CardType)
  | .resourceType => inferInstanceAs (Enumeration ResourceType)
  | .requirement => inferInstanceAs (Enumeration Requirement)
  | .tribe => inferInstanceAs (Enumeration Tribe)
  | .zone => inferInstanceAs (Enumeration Zone)
  | .step => inferInstanceAs (Enumeration Step)
  | .optionType => inferInstanceAs (Enumeration OptionType)
  | .category => inferInstanceAs (Enumeration Category)

/-- The directory of an enumeration. -/
def directory : EnumId → Directory
  | .gameTag => .declared GameTag
  | .blockType => .declared BlockType
  | .cardType => .declared CardType
  | .resourceType => .declared ResourceType
  | .requirement => .declared Requirement
  | .tribe => .declared Tribe
  | .zone => .declared Zone
  | .step => .declared Step
  | .optionType => .declared OptionType
  | .category => .declared Category

theorem directory_eq_declared (id : EnumId) : id.directory = .declared id.Item := by
  cases id <;> rfl

theorem id_item (id : EnumId) : Enumeration.id id.Item = id := by
  cases id <;> rfl

theorem name_item (id : EnumId) : Enumeration.name id.Item = id.name :=
  congrArg name id.id_item

/-- The directory of the enumeration declared under `name`, letter for letter. -/
def findDirectory? (name : String) : Option Directory :=
  (ofName? name).map directory

end EnumId

/-- The directories of all enumerations, in declaration order. -/
def allDirectories : List Directory :=
  EnumId.all.map EnumId.directory

end CardCodex
