/-
Module: CardCodex.Proofs.Agreement
Purpose: The codebook and the directory of one list of declarations answer alike, whatever
  the list, and so all lookups by name of an enumeration give one answer.
Main exports: Codebook.AgreesWith, Codebook.agreesWith_ofItems, Codebook.Matches,
  Codebook.matches_ofItems, EnumId.NameAnswer, EnumId.AllAnswer, EnumId.lookups_by_name
-/
import CardCodex.Proofs.Declarations

namespace CardCodex

/-! ### Tables with other keys -/

namespace Assoc

variable {K L V : Type} [DecidableEq K] [DecidableEq L]

theorem findIn_map_key {rename : K → L} (injective : ∀ first second,
    rename first = rename second → first = second) (key : K) (pairs : List (K × V)) :
    findIn (rename key) (pairs.map fun pair => (rename pair.1, pair.2)) = findIn key pairs := by
  induction pairs with
  | nil => rfl
  | cons pair rest inductionHypothesis =>
      by_cases same : pair.1 = key
      · simp [findIn, same]
      · have different : rename pair.1 ≠ rename key := fun sameName =>
          same (injective _ _ sameName)
        simp [findIn, same, different, inductionHypothesis]

/-- Keys may be replaced by names of their own. -/
theorem find?_ofList_map_key {rename : K → L} (injective : ∀ first second,
    rename first = rename second → first = second) (pairs : List (K × V)) (key : K) :
    (ofList (pairs.map fun pair => (rename pair.1, pair.2))).find? (rename key) =
      (ofList pairs).find? key := by
  rw [find?_ofList, find?_ofList, ← List.map_reverse, findIn_map_key injective]

end Assoc

/-! ### Codebooks and directories -/

/-- Items and their values are one-to-one, so the names of a directory are found by value
as they would be by item. -/
theorem Directory.find?_nameByValue_ofItems {E : Type} [DecidableEq E] [Enumeration E]
    (enumName : String) (declarations : List (String × E)) (item : E) :
    (ofItems enumName declarations).nameByValue.find? (Enumeration.value item) =
      (Assoc.ofList (declarations.map fun entry => (entry.2, entry.1))).find? item := by
  have renamed :=
    Assoc.find?_ofList_map_key (fun _ _ => Enumeration.value_injective)
      (declarations.map fun entry => (entry.2, entry.1)) item
  rw [List.map_map] at renamed
  exact renamed

namespace Codebook

variable {E : Type} [DecidableEq E] [Enumeration E]

/-- A codebook and a directory answer every lookup alike, errors included. -/
structure AgreesWith (book : Codebook E) (directory : Directory) : Prop where
  valueOf_eq : ∀ name, book.valueOf name = directory.valueOf name
  itemOf_eq : ∀ name, book.itemOf name = directory.itemOf E name
  nameOf_eq_nameOfItem : ∀ item, book.nameOf item = directory.nameOfItem item
  nameOf_eq_nameOf : ∀ item, book.nameOf item = directory.nameOf (Enumeration.value item)

theorem agreesWith_ofItems {enumName : String} {declarations : List (String × E)}
    {book : Codebook E} (accepted : ofItems enumName declarations = .ok book) :
    book.AgreesWith (.ofItems enumName declarations) := by
  have bookEq := eq_of_ofItems_eq_ok accepted
  have sameValue : ∀ name,
      book.valueOf name = (Directory.ofItems enumName declarations).valueOf name := by
    intro name
    subst bookEq
    rfl
  have sameName : ∀ item,
      book.nameOf item =
        (Directory.ofItems enumName declarations).nameOf (Enumeration.value item) := by
    intro item
    subst bookEq
    rw [nameOf, Directory.nameOf, Directory.find?_nameByValue_ofItems]
    rfl
  refine ⟨sameValue, ?_, sameName, sameName⟩
  intro name
  rw [Directory.itemOf, ← sameValue, valueOf_eq_map_itemOf accepted]
  cases answered : book.itemOf name with
  | error reason => rfl
  | ok item =>
      have found := Enumeration.ofValue?_eq_some_iff.mpr (Eq.refl (Enumeration.value item))
      simp [Except.map, found]

end Codebook

/-! ### The entries of a directory -/

namespace Directory

/-- The entries of two tables are those of the second one. -/
theorem entries_ofTables_perm (enumName : String) (valueByName : Assoc String Int32)
    (nameByValue : Assoc Int32 String) :
    (ofTables enumName valueByName nameByValue).entries.Perm
      (nameByValue.entries.map fun entry => (entry.2, entry.1)) :=
  List.mergeSort_perm _ _

/-- Entries with different values stand in strictly increasing order. -/
theorem entries_ofTables_increasing (enumName : String) (valueByName : Assoc String Int32)
    {nameByValue : Assoc Int32 String} (distinct : nameByValue.DistinctKeys) :
    (ofTables enumName valueByName nameByValue).entries.Pairwise
      fun first second => first.2 < second.2 := by
  have sorted : (ofTables enumName valueByName nameByValue).entries.Pairwise
      fun first second => first.2 ≤ second.2 := by
    have ordered := @List.pairwise_mergeSort (String × Int32)
      (fun first second => first.2 ≤ second.2)
      (fun first second third => by simpa using Int32.le_trans)
      (fun first second => by simpa using Int32.le_total first.2 second.2)
      (nameByValue.entries.map fun entry => (entry.2, entry.1))
    simpa [ofTables] using ordered
  have different : (ofTables enumName valueByName nameByValue).entries.Pairwise
      fun first second => first.2 ≠ second.2 := by
    rw [← List.pairwise_map (f := Prod.snd) (R := (· ≠ ·))]
    have perm := (entries_ofTables_perm enumName valueByName nameByValue).map Prod.snd
    rw [List.map_map] at perm
    exact perm.nodup_iff.mpr distinct
  exact sorted.imp₂ (fun _ _ le ne => Int32.lt_of_le_of_ne le ne) different

variable {E : Type} [Enumeration E]

theorem contains_ofItems_iff {enumName : String} {declarations : List (String × E)}
    {value : Int32} :
    (ofItems enumName declarations).contains value = true ↔
      ∃ declaration ∈ declarations, Enumeration.value declaration.2 = value := by
  have isKey : ((ofItems enumName declarations).nameByValue.find? value).isSome = true ↔
      ∃ declaration ∈ declarations, Enumeration.value declaration.2 = value := by
    rw [Assoc.isSome_find?_iff]
    change value ∈ (Assoc.ofList _).keys ↔ _
    rw [Assoc.keys_ofList, List.mem_eraseDups]
    simp
  rw [← isKey, contains, nameOf]
  cases (ofItems enumName declarations).nameByValue.find? value <;> rfl

/-- Declarations of different items are the entries, up to their order. -/
theorem entries_ofItems_perm {enumName : String} {declarations : List (String × E)}
    (distinct : (declarations.map Prod.snd).Nodup) :
    (ofItems enumName declarations).entries.Perm
      (declarations.map fun declaration =>
        (declaration.1, Enumeration.value declaration.2)) := by
  have distinctValues : ((declarations.map fun declaration =>
      (Enumeration.value declaration.2, declaration.1)).map Prod.fst).Nodup := by
    have values := distinct.map (f := Enumeration.value) fun _ _ => Enumeration.value_injective
    simpa [Function.comp_def] using values
  have perm := entries_ofTables_perm enumName
    (.ofList (declarations.map fun declaration =>
      (declaration.1, Enumeration.value declaration.2)))
    (.ofList (declarations.map fun declaration =>
      (Enumeration.value declaration.2, declaration.1)))
  rw [Assoc.entries_ofList_of_nodup distinctValues, List.map_map] at perm
  exact perm

end Directory

namespace Codebook

variable {E : Type} [DecidableEq E] [Enumeration E]

/-- A codebook and a directory of `declarations` answer alike, and the directory lists
just these declarations in the order of their values. -/
structure Matches (book : Codebook E) (directory : Directory)
    (declarations : List (String × E)) : Prop extends book.AgreesWith directory where
  contains_iff : ∀ value, directory.contains value = true ↔
    ∃ declaration ∈ declarations, Enumeration.value declaration.2 = value
  entries_perm : directory.entries.Perm
    (declarations.map fun declaration => (declaration.1, Enumeration.value declaration.2))
  entries_increasing : directory.entries.Pairwise fun first second => first.2 < second.2
  length_entries : directory.entries.length = book.size

/-- The codebook of a list of declarations and the directory of that list cannot drift
apart. -/
theorem matches_ofItems {enumName : String} {declarations : List (String × E)}
    {book : Codebook E} (accepted : ofItems enumName declarations = .ok book) :
    book.Matches (.ofItems enumName declarations) declarations := by
  have perm : (Directory.ofItems enumName declarations).entries.Perm _ :=
    Directory.entries_ofItems_perm (nodup_of_ofItems_eq_ok accepted).2
  refine
    { toAgreesWith := agreesWith_ofItems accepted
      contains_iff := fun value => Directory.contains_ofItems_iff
      entries_perm := perm
      entries_increasing :=
        Directory.entries_ofTables_increasing _ _ (Assoc.distinctKeys_ofList _)
      length_entries := ?_ }
  rw [perm.length_eq, List.length_map, eq_of_ofItems_eq_ok accepted, size]

/-- Some zones under names of their own, not in the order of their values. -/
def places : List (String × Zone) :=
  [("SHELF", .deck), ("TABLE", .play), ("PILE", .discard)]

theorem places_match :
    ∃ book, ofItems "Place" places = .ok book ∧
      book.Matches (.ofItems "Place" places) places :=
  ⟨_, rfl, matches_ofItems rfl⟩

end Codebook

/-! ### Lookups by name -/

namespace Enumeration

variable {E : Type} [DecidableEq E] [Enumeration E]

/-- A name is read as an item exactly when it is the name of the item up to casing. -/
theorem parse_eq_ok_iff_eqUpToCase {name : String} {item : E} :
    parse E name = .ok item ↔ EqUpToCase name (itemName item) := by
  rw [parse_eq_ok_iff, ← upperCase_eq_upperCase_iff,
    upperCase_eq_self (isCanonical_itemName item)]
  exact eq_comm

/-- Names that differ in casing only are read alike, each error with its own spelling. -/
theorem parse_of_eqUpToCase {name other : String} (same : EqUpToCase name other) :
    parse E other = (parse E name).mapError (LookupError.respelled other) := by
  have sameUpper := upperCase_eq_upperCase_iff.mpr same
  cases answered : parse E name with
  | ok item =>
      rw [parse_eq_ok_iff, sameUpper] at answered
      exact parse_eq_ok_iff.mpr answered
  | error reason =>
      rcases parse_eq_error_iff.mp answered with ⟨unnamed, rfl⟩
      rw [sameUpper] at unnamed
      exact parse_eq_error_iff.mpr ⟨unnamed, rfl⟩

end Enumeration

namespace EnumId

/-- What a lookup by name has to answer: the item whose name is the upper case form of
`name`, or an error that gives `name` as it is spelled. -/
inductive NameAnswer (id : EnumId) (name : String) : Except LookupError id.Item → Prop where
  | item (item : id.Item) (named : Enumeration.itemName item = upperCase name) :
      NameAnswer id name (.ok item)
  | unknown (unnamed : ∀ item : id.Item, Enumeration.itemName item ≠ upperCase name) :
      NameAnswer id name (.error (.unknownName id.name name))

/-- Every lookup of `name` gives `answer`.  Those that look for a value give the value of
the item, or the same error. -/
structure AllAnswer (id : EnumId) (name : String) (answer : Except LookupError id.Item) :
    Prop where
  parse : Enumeration.parse id.Item name = answer
  ofText : Enumeration.ofText id.Item name = answer
  codebook_itemOf : (Enumeration.codebook id.Item).itemOf name = answer
  directory_itemOf : id.directory.itemOf id.Item name = answer
  codebook_valueOf :
    (Enumeration.codebook id.Item).valueOf name = answer.map Enumeration.value
  directory_valueOf : id.directory.valueOf name = answer.map Enumeration.value

theorem nameAnswer_parse (id : EnumId) (name : String) :
    NameAnswer id name (Enumeration.parse id.Item name) := by
  cases answered : Enumeration.parse id.Item name with
  | ok item => exact .item item (Enumeration.parse_eq_ok_iff.mp answered)
  | error reason =>
      rcases Enumeration.parse_eq_error_iff.mp answered with ⟨unnamed, rfl⟩
      rw [id.name_item]
      exact .unknown unnamed

/-- The codebook and the directory of an enumeration are built from the same
declarations. -/
theorem codebook_agreesWith (id : EnumId) :
    (Enumeration.codebook id.Item).AgreesWith id.directory := by
  rw [directory_eq_declared]
  exact Codebook.agreesWith_ofItems (Enumeration.ofItems_declared id.Item)

/-- The codebook and the directory of an enumeration answer as reading the name does. -/
theorem allAnswer_parse (id : EnumId) (name : String) :
    AllAnswer id name (Enumeration.parse id.Item name) := by
  have agrees := id.codebook_agreesWith
  have value := Codebook.valueOf_eq_map_itemOf (Enumeration.ofItems_declared id.Item) name
  rw [Enumeration.parse_eq_itemOf]
  exact
    { parse := Enumeration.parse_eq_itemOf name
      ofText := Enumeration.parse_eq_itemOf name
      codebook_itemOf := rfl
      directory_itemOf := (agrees.itemOf_eq name).symm
      codebook_valueOf := value
      directory_valueOf := (agrees.valueOf_eq name).symm.trans value }

/-- All lookups by name give one answer to a name, and casing makes no difference to it
but for the spelling that an error gives. -/
theorem lookups_by_name (id : EnumId) (name : String) :
    ∃ answer, NameAnswer id name answer ∧ AllAnswer id name answer ∧
      (∀ item, answer = .ok item ↔ EqUpToCase name (Enumeration.itemName item)) ∧
      ∀ other, EqUpToCase name other →
        AllAnswer id other (answer.mapError (LookupError.respelled other)) := by
  refine ⟨Enumeration.parse id.Item name, nameAnswer_parse id name, allAnswer_parse id name,
    ?_, ?_⟩
  · intro item
    exact Enumeration.parse_eq_ok_iff_eqUpToCase
  · intro other same
    rw [← Enumeration.parse_of_eqUpToCase same]
    exact allAnswer_parse id other

end EnumId

end CardCodex
