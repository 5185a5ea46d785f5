/-
Module: CardCodex.Enumeration.Codebook
Purpose: The two-way table of names and items of one enumeration, built from its
  declarations one after the other.
Main exports: DeclarationFault, Codebook, Codebook.ofItems, codebook, ofItems_declared
-/
import CardCodex.Assoc
import CardCodex.Enumeration.Basic
import CardCodex.Text.Quoted

namespace CardCodex

/-- Why a declaration cannot join a codebook. -/
inductive DeclarationFault where
  | notUpperCase (enumName item : String)
  | repeatedName (enumName item : String)
  | repeatedValue (enumName : String) (value : Int32) (first second : String)
deriving DecidableEq, Repr

/-- The fault in words. -/
def DeclarationFault.message : DeclarationFault → String
  | .notUpperCase enumName item =>
      "item `" ++ item ++ "` of enum " ++ enumName ++ " is not upper case"
  | .repeatedName enumName item =>
      "enum " ++ enumName ++ " declares item `" ++ item ++ "` twice"
  | .repeatedValue enumName value first second =>
      "enum " ++ enumName ++ " declares value " ++ writtenInteger value.toInt ++ " for both `"
        ++ first ++ "` and `" ++ second ++ "`"

/-- The names of the items of `E`, to be looked up from either side.  `items`
holds the declarations in order. -/
structure Codebook (E : Type) where
  enumName : String
  items : List (String × E)
  itemByName : Assoc String E
  nameByItem : Assoc E String
  valueByName : Assoc String Int32

namespace Codebook

variable {E : Type}

/-- The codebook of an enumeration before its first declaration. -/
def empty (enumName : String) : Codebook E :=
  { enumName := enumName
    items := []
    itemByName := .empty
    nameByItem := .empty
    valueByName := .empty }

variable [DecidableEq E] [Enumeration E]

/-- Adds one declaration.  The name must be a canonical lookup key and new, and
the item must be new; the first of these that fails is reported. -/
def declare (book : Codebook E) (name : String) (item : E) :
    Except DeclarationFault (Codebook E) :=
  if !isCanonical name then
    .error (.notUpperCase book.enumName name)
  else if (book.itemByName.find? name).isSome then
    .error (.repeatedName book.enumName name)
  else
    match book.nameByItem.find? item with
    | some first =>
        .error (.repeatedValue book.enumName (Enumeration.value item) first name)
    | none =>
        .ok
          { enumName := book.enumName
            items := book.items ++ [(name, item)]
            itemByName := book.itemByName.insert name item
            nameByItem := book.nameByItem.insert item name
            valueByName := book.valueByName.insert name (Enumeration.value item) }

/-- The codebook of a list of declarations, or the first fault in the list. -/
def ofItems (enumName : String) (items : List (String × E)) :
    Except DeclarationFault (Codebook E) :=
  items.foldlM (fun book entry => book.declare entry.1 entry.2) (empty enumName)

/-- The item called `name` in any ASCII casing. -/
def itemOf (book : Codebook E) (name : String) : Except LookupError E :=
  match book.itemByName.find? (canonical name) with
  | some item => .ok item
  | none => .error (.unknownName book.enumName name)

/-- The value of the item called `name` in any ASCII casing. -/
def valueOf (book : Codebook E) (name : String) : Except LookupError Int32 :=
  match book.valueByName.find? (canonical name) with
  | some value => .ok value
  | none => .error (.unknownName book.enumName name)

/-- The name under which `item` was declared. -/
def nameOf (book : Codebook E) (item : E) : Except LookupError String :=
  match book.nameByItem.find? item with
  | some name => .ok name
  | none => .error (.unknownValue book.enumName (Enumeration.value item))

/-- The number of declarations. -/
def size (book : Codebook E) : Nat :=
  book.items.length

/-- The codebook in one line, for diagnostics: its name and its size. -/
def outline (book : Codebook E) : String :=
  "EnumMap \x7b enum_name: " ++ quoted book.enumName ++ ", items: "
    ++ writtenInteger book.size ++ " \x7d"

/-- A declaration whose name is canonical and whose name and item are new is
accepted. -/
theorem declare_eq_ok {book : Codebook E} {name : String} {item : E}
    (canonicalName : isCanonical name = true) (newName : name ∉ book.itemByName.keys)
    (newItem : item ∉ book.nameByItem.keys) :
    book.declare name item =
      .ok
        { enumName := book.enumName
          items := book.items ++ [(name, item)]
          itemByName := book.itemByName.insert name item
          nameByItem := book.nameByItem.insert item name
          valueByName := book.valueByName.insert name (Enumeration.value item) } := by
  simp [declare, canonicalName, Assoc.find?_eq_none_iff.mpr newName,
    Assoc.find?_eq_none_iff.mpr newItem]

/-- A list of declarations is accepted when every name is canonical and no name
and no item comes twice, in the list or in the codebook before it. -/
theorem foldlM_declare_isOk (entries : List (String × E)) (book : Codebook E)
    (canonicalNames : ∀ entry ∈ entries, isCanonical entry.1 = true)
    (newNames : (book.itemByName.keys ++ entries.map Prod.fst).Nodup)
    (newItems : (book.nameByItem.keys ++ entries.map Prod.snd).Nodup) :
    ∃ built, entries.foldlM (fun book entry => book.declare entry.1 entry.2) book =
      (.ok built : Except DeclarationFault (Codebook E)) := by
  induction entries generalizing book with
  | nil => exact ⟨book, rfl⟩
  | cons entry rest inductionHypothesis =>
      obtain ⟨name, item⟩ := entry
      have missingName : name ∉ book.itemByName.keys := fun present =>
        (List.nodup_append.mp newNames).2.2 name present name (by simp) rfl
      have missingItem : item ∉ book.nameByItem.keys := fun present =>
        (List.nodup_append.mp newItems).2.2 item present item (by simp) rfl
      rw [List.foldlM_cons, declare_eq_ok (canonicalNames (name, item) (by simp))
        missingName missingItem]
      apply inductionHypothesis
      · exact fun other member => canonicalNames other (List.mem_cons_of_mem _ member)
      · rw [Assoc.keys_insert_of_not_mem _ missingName, List.append_assoc]
        exact newNames
      · rw [Assoc.keys_insert_of_not_mem _ missingItem, List.append_assoc]
        exact newItems

end Codebook

namespace Enumeration

variable (E : Type) [DecidableEq E] [Enumeration E]

omit [DecidableEq E] in
theorem items_nodup : (items (E := E)).Nodup :=
  (List.pairwise_map.mp values_nodup).imp fun different same => different (congrArg value same)

/-- The declarations of an enumeration are free of faults. -/
theorem ofItems_declared_ne_error (fault : DeclarationFault) :
    Codebook.ofItems (name E) (declared E) ≠ .error fault := by
  obtain ⟨built, accepted⟩ :=
    Codebook.foldlM_declare_isOk (declared E) (Codebook.empty (name E))
      (by
        intro entry member
        obtain ⟨item, itemMember, rfl⟩ := List.mem_map.mp member
        exact names_canonical item itemMember)
      (by
        simpa [declared, Codebook.empty, Function.comp_def] using names_nodup (E := E))
      (by
        simpa [declared, Codebook.empty, Function.comp_def] using items_nodup E)
  rw [Codebook.ofItems, accepted]
  exact fun impossible => nomatch impossible

/-- The codebook of the declarations of `E`. -/
def codebook : Codebook E :=
  match built : Codebook.ofItems (name E) (declared E) with
  | .ok book => book
  | .error fault => absurd built (ofItems_declared_ne_error E fault)

/-- The codebook of an enumeration is what its declarations build. -/
theorem ofItems_declared : Codebook.ofItems (name E) (declared E) = .ok (codebook E) := by
  unfold codebook
  split
  · assumption
  · next fault failed => exact absurd failed (ofItems_declared_ne_error E fault)

/-- The item of `E` called `name` in any ASCII casing.  The codebook is asked for the
canonical lookup key, and an error reports the name as it is spelled here. -/
def parse (name : String) : Except LookupError E :=
  ((codebook E).itemOf (canonical name)).mapError (LookupError.respelled name)

/-- The item of `E` that a text stands for. -/
def ofText (text : String) : Except LookupError E :=
  parse E text

/-- The name of an item, as the codebook has it. -/
def nameOf (item : E) : Except LookupError String :=
  (codebook E).nameOf item

end Enumeration

end CardCodex
