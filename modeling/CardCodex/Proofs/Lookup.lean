/-
Module: CardCodex.Proofs.Lookup
Purpose: What lookups by name and by value answer, for every enumeration: the item that
  has the name or the value, or the reason why there is none.
Main exports: Enumeration.ofValue?_eq_some_iff, Enumeration.parse_eq_itemOf,
  Enumeration.parse_eq_ok_iff, Enumeration.parse_eq_error_iff,
  EnumId.nameOf_eq_ok_iff, EnumId.nameOf_value, EnumId.nameOf_eq_error_iff,
  EnumId.valueOf_eq_ok_iff, EnumId.valueOf_eq_error_iff, EnumId.isNameChar_of_mem_itemName
-/
import Mathlib.Data.List.Nodup
import CardCodex.Enumeration.Codebook
import CardCodex.Enumeration.Directory
import CardCodex.Proofs.Casing
import CardCodex.Proofs.InsertionOrder

namespace CardCodex

namespace Enumeration

variable {E : Type} [Enumeration E]

/-- No two items share a value. -/
theorem value_injective {first second : E} (same : value first = value second) :
    first = second :=
  List.inj_on_of_nodup_map values_nodup (mem_items first) (mem_items second) same

/-- No two items share a name. -/
theorem itemName_injective {first second : E} (same : itemName first = itemName second) :
    first = second :=
  List.inj_on_of_nodup_map names_nodup (mem_items first) (mem_items second) same

/-- Every name of an item is its own lookup key. -/
theorem isCanonical_itemName (item : E) : isCanonical (itemName item) = true :=
  names_canonical item (mem_items item)

/-- The lower case forms of the names tell the items apart. -/
theorem lowerCase_itemName_injective {first second : E}
    (same : lowerCase (itemName first) = lowerCase (itemName second)) : first = second := by
  apply itemName_injective
  rw [← canonical_lowerCase (isCanonical_itemName first), same,
    canonical_lowerCase (isCanonical_itemName second)]

theorem ofValue?_eq_some_iff {wanted : Int32} {item : E} :
    ofValue? E wanted = some item ↔ value item = wanted := by
  constructor
  · intro found
    simpa using List.find?_some found
  · rintro rfl
    cases found : ofValue? E (value item) with
    | some other =>
        have same : value other = value item := by simpa using List.find?_some found
        rw [value_injective same]
    | none =>
        have missing := List.find?_eq_none.mp found item (mem_items item)
        exact absurd missing (by simp)

end Enumeration

/-! ### The letters of names -/

/-- Whether a character can stand in the name of an item. -/
def isNameChar (c : Char) : Bool :=
  c.isUpper || c == '_'

namespace EnumId

/-- The names of items consist of upper case letters and underscores. -/
theorem isNameChar_of_mem_itemName {id : EnumId} (item : id.Item) :
    ∀ c ∈ (Enumeration.itemName item).toList, isNameChar c = true := by
  have everyItem : ∀ item ∈ Enumeration.items (E := id.Item),
      (Enumeration.itemName item).toList.all isNameChar = true := by
    cases id <;> decide
  exact List.all_eq_true.mp (everyItem item (Enumeration.mem_items item))

/-- A character that is not of that kind is in no name. -/
theorem not_mem_itemName {id : EnumId} (item : id.Item) {c : Char}
    (noNameChar : isNameChar c = false) : c ∉ (Enumeration.itemName item).toList := by
  intro member
  rw [isNameChar_of_mem_itemName item c member] at noNameChar
  cases noNameChar

end EnumId

/-! ### Directories -/

namespace Directory

variable {E : Type} [Enumeration E]

theorem entries_nameByValue_declared :
    (declared E).nameByValue.entries =
      (Enumeration.items (E := E)).map fun item =>
        (Enumeration.value item, Enumeration.itemName item) := by
  have pairs :
      (Enumeration.declared E).map (fun entry => (Enumeration.value entry.2, entry.1)) =
        (Enumeration.items (E := E)).map fun item =>
          (Enumeration.value item, Enumeration.itemName item) := by
    simp [Enumeration.declared, Function.comp_def]
  rw [declared, ofItems, ofTables, pairs]
  apply Assoc.entries_ofList_of_nodup
  simpa [Function.comp_def] using Enumeration.values_nodup (E := E)

theorem entries_valueByName_declared :
    (declared E).valueByName.entries =
      (Enumeration.items (E := E)).map fun item =>
        (Enumeration.itemName item, Enumeration.value item) := by
  have pairs :
      (Enumeration.declared E).map (fun entry => (entry.1, Enumeration.value entry.2)) =
        (Enumeration.items (E := E)).map fun item =>
          (Enumeration.itemName item, Enumeration.value item) := by
    simp [Enumeration.declared, Function.comp_def]
  rw [declared, ofItems, ofTables, pairs]
  apply Assoc.entries_ofList_of_nodup
  simpa [Function.comp_def] using Enumeration.names_nodup (E := E)

theorem find?_nameByValue_declared {wanted : Int32} {name : String} :
    (declared E).nameByValue.find? wanted = some name ↔
      ∃ item : E, Enumeration.value item = wanted ∧ Enumeration.itemName item = name := by
  have distinct : (declared E).nameByValue.DistinctKeys := Assoc.distinctKeys_ofList _
  rw [Assoc.find?_eq_some_iff distinct, entries_nameByValue_declared]
  simp [Enumeration.mem_items]

theorem find?_valueByName_declared {name : String} {value : Int32} :
    (declared E).valueByName.find? name = some value ↔
      ∃ item : E, Enumeration.itemName item = name ∧ Enumeration.value item = value := by
  have distinct : (declared E).valueByName.DistinctKeys := Assoc.distinctKeys_ofList _
  rw [Assoc.find?_eq_some_iff distinct, entries_valueByName_declared]
  simp [Enumeration.mem_items]

end Directory

namespace EnumId

/-- A value has a name when an item has that value. -/
theorem nameOf_eq_ok_iff {id : EnumId} {value : Int32} {name : String} :
    id.directory.nameOf value = .ok name ↔
      ∃ item : id.Item, Enumeration.value item = value ∧ Enumeration.itemName item = name := by
  rw [directory_eq_declared, ← Directory.find?_nameByValue_declared, Directory.nameOf]
  cases (Directory.declared id.Item).nameByValue.find? value <;> simp

/-- The value of an item is named as the item is. -/
@[simp] theorem nameOf_value {id : EnumId} (item : id.Item) :
    id.directory.nameOf (Enumeration.value item) = .ok (Enumeration.itemName item) :=
  nameOf_eq_ok_iff.mpr ⟨item, rfl, rfl⟩

/-- A value without an item is reported as such. -/
theorem nameOf_eq_error_iff {id : EnumId} {value : Int32} {reason : LookupError} :
    id.directory.nameOf value = .error reason ↔
      (∀ item : id.Item, Enumeration.value item ≠ value) ∧
        reason = .unknownValue id.name value := by
  have enumName : (Directory.declared id.Item).enumName = id.name := id.name_item
  have missing :
      (Directory.declared id.Item).nameByValue.find? value = none ↔
        ∀ item : id.Item, Enumeration.value item ≠ value := by
    rw [Option.eq_none_iff_forall_ne_some]
    simp [Directory.find?_nameByValue_declared]
  rw [directory_eq_declared, ← missing, Directory.nameOf, enumName]
  cases (Directory.declared id.Item).nameByValue.find? value <;> simp [eq_comm]

/-- A name has a value when its upper case form is the name of an item. -/
theorem valueOf_eq_ok_iff {id : EnumId} {name : String} {value : Int32} :
    id.directory.valueOf name = .ok value ↔
      ∃ item : id.Item,
        Enumeration.itemName item = upperCase name ∧ Enumeration.value item = value := by
  rw [directory_eq_declared, ← Directory.find?_valueByName_declared, Directory.valueOf,
    canonical_eq_upperCase]
  cases (Directory.declared id.Item).valueByName.find? (upperCase name) <;> simp

/-- A name without an item is reported as it is spelled. -/
theorem valueOf_eq_error_iff {id : EnumId} {name : String} {reason : LookupError} :
    id.directory.valueOf name = .error reason ↔
      (∀ item : id.Item, Enumeration.itemName item ≠ upperCase name) ∧
        reason = .unknownName id.name name := by
  have enumName : (Directory.declared id.Item).enumName = id.name := id.name_item
  have missing :
      (Directory.declared id.Item).valueByName.find? (upperCase name) = none ↔
        ∀ item : id.Item, Enumeration.itemName item ≠ upperCase name := by
    rw [Option.eq_none_iff_forall_ne_some]
    simp [Directory.find?_valueByName_declared]
  rw [directory_eq_declared, ← missing, Directory.valueOf, enumName, canonical_eq_upperCase]
  cases (Directory.declared id.Item).valueByName.find? (upperCase name) <;> simp [eq_comm]

end EnumId

/-! ### Codebooks -/

namespace Codebook

variable {E : Type} [DecidableEq E] [Enumeration E]

/-- An accepted declaration adds its name and its item, and nothing else. -/
theorem eq_of_declare_eq_ok {book next : Codebook E} {name : String} {item : E}
    (accepted : book.declare name item = .ok next) :
    next =
      { enumName := book.enumName
        items := book.items ++ [(name, item)]
        itemByName := book.itemByName.insert name item
        nameByItem := book.nameByItem.insert item name
        valueByName := book.valueByName.insert name (Enumeration.value item) } := by
  unfold declare at accepted
  split at accepted
  · cases accepted
  · split at accepted
    · cases accepted
    · split at accepted
      · cases accepted
      · exact (Except.ok.inj accepted).symm

/-- A run of accepted declarations adds each of them in turn. -/
theorem eq_of_foldlM_declare_eq_ok {entries : List (String × E)} {book built : Codebook E}
    (accepted : entries.foldlM (fun book entry => book.declare entry.1 entry.2) book =
      (.ok built : Except DeclarationFault (Codebook E))) :
    built =
      { enumName := book.enumName
        items := book.items ++ entries
        itemByName := book.itemByName.insertAll entries
        nameByItem := book.nameByItem.insertAll (entries.map fun entry => (entry.2, entry.1))
        valueByName :=
          book.valueByName.insertAll
            (entries.map fun entry => (entry.1, Enumeration.value entry.2)) } := by
  induction entries generalizing book with
  | nil => simpa [Assoc.insertAll] using (Except.ok.inj accepted).symm
  | cons entry rest inductionHypothesis =>
      rw [List.foldlM_cons] at accepted
      cases declared : book.declare entry.1 entry.2 with
      | error fault => rw [declared] at accepted; cases accepted
      | ok next =>
          rw [declared] at accepted
          have nextEq := eq_of_declare_eq_ok declared
          subst nextEq
          simpa [Assoc.insertAll] using inductionHypothesis accepted

/-- An accepted list of declarations is held as it is, and its tables are those of its
pairs. -/
theorem eq_of_ofItems_eq_ok {enumName : String} {declarations : List (String × E)}
    {book : Codebook E} (accepted : ofItems enumName declarations = .ok book) :
    book =
      { enumName := enumName
        items := declarations
        itemByName := .ofList declarations
        nameByItem := .ofList (declarations.map fun entry => (entry.2, entry.1))
        valueByName :=
          .ofList (declarations.map fun entry => (entry.1, Enumeration.value entry.2)) } :=
  eq_of_foldlM_declare_eq_ok accepted

end Codebook

namespace Enumeration

variable {E : Type} [DecidableEq E] [Enumeration E]

theorem codebook_eq :
    codebook E =
      { enumName := name E
        items := declared E
        itemByName := .ofList (declared E)
        nameByItem := .ofList ((declared E).map fun entry => (entry.2, entry.1))
        valueByName := .ofList ((declared E).map fun entry => (entry.1, value entry.2)) } :=
  Codebook.eq_of_ofItems_eq_ok (ofItems_declared E)

theorem find?_itemByName_codebook {wanted : String} {item : E} :
    (codebook E).itemByName.find? wanted = some item ↔ itemName item = wanted := by
  have distinct : ((declared E).map Prod.fst).Nodup := by
    simpa [declared, Function.comp_def] using names_nodup (E := E)
  rw [codebook_eq, Assoc.find?_eq_some_iff (Assoc.distinctKeys_ofList _),
    Assoc.entries_ofList_of_nodup distinct, declared]
  simp [mem_items]

/-- Asking for the lookup key of a name and restoring the spelling in the error amounts
to asking for the name. -/
theorem parse_eq_itemOf (wanted : String) : parse E wanted = (codebook E).itemOf wanted := by
  rw [parse, Codebook.itemOf, Codebook.itemOf, canonical_canonical]
  cases (codebook E).itemByName.find? (canonical wanted) <;> rfl

/-- A name is read as the item that its upper case form names. -/
theorem parse_eq_ok_iff {wanted : String} {item : E} :
    parse E wanted = .ok item ↔ itemName item = upperCase wanted := by
  rw [← find?_itemByName_codebook, parse_eq_itemOf, Codebook.itemOf, canonical_eq_upperCase]
  cases (codebook E).itemByName.find? (upperCase wanted) <;> simp

/-- A name without an item is reported as it is spelled. -/
theorem parse_eq_error_iff {wanted : String} {reason : LookupError} :
    parse E wanted = .error reason ↔
      (∀ item : E, itemName item ≠ upperCase wanted) ∧
        reason = .unknownName (name E) wanted := by
  have enumName : (codebook E).enumName = name E := by rw [codebook_eq]
  have missing :
      (codebook E).itemByName.find? (upperCase wanted) = none ↔
        ∀ item : E, itemName item ≠ upperCase wanted := by
    rw [Option.eq_none_iff_forall_ne_some]
    simp [find?_itemByName_codebook]
  rw [← missing, parse_eq_itemOf, Codebook.itemOf, canonical_eq_upperCase, enumName]
  cases (codebook E).itemByName.find? (upperCase wanted) <;> simp [eq_comm]

end Enumeration

end CardCodex
