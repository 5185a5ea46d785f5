/-
Module: CardCodex.Proofs.Naming
Purpose: Every way from an integer to an item and from an item to its name agrees, for every
  enumeration and every integer, and so does every way to the directory of an enumeration.
Main exports: EnumId.ofName?_eq_some_iff, EnumId.findDirectory?_eq_some_iff,
  EnumId.HasDirectory, EnumId.AllName, EnumId.NoneNames, EnumId.values_by_every_way
-/
import CardCodex.Proofs.Agreement

namespace CardCodex.EnumId

/-! ### Directories by the name of the enumeration -/

/-- No two enumerations share a declared name. -/
theorem name_injective {first second : EnumId} (same : first.name = second.name) :
    first = second := by
  have distinct : (all.map name).Nodup := by decide
  exact List.inj_on_of_nodup_map distinct (mem_all first) (mem_all second) same

theorem ofName?_eq_some_iff {wanted : String} {id : EnumId} :
    ofName? wanted = some id ↔ id.name = wanted := by
  constructor
  · intro found
    simpa using List.find?_some found
  · rintro rfl
    cases found : ofName? id.name with
    | some other =>
        have same : other.name = id.name := by simpa using List.find?_some found
        rw [name_injective same]
    | none =>
        have missing := List.find?_eq_none.mp found id (mem_all id)
        exact absurd missing (by simp)

/-- The directory of an enumeration is found under its declared name and no other. -/
theorem findDirectory?_eq_some_iff {wanted : String} {directory : Directory} :
    findDirectory? wanted = some directory ↔
      ∃ id : EnumId, id.name = wanted ∧ id.directory = directory := by
  rw [findDirectory?, Option.map_eq_some_iff]
  simp only [ofName?_eq_some_iff]

theorem findDirectory?_eq_none_iff {wanted : String} :
    findDirectory? wanted = none ↔ ∀ id : EnumId, id.name ≠ wanted := by
  rw [Option.eq_none_iff_forall_ne_some]
  simp [findDirectory?_eq_some_iff]

/-- The ways to the directory of an enumeration: from its items, by its id, and by its
declared name. -/
inductive HasDirectory (id : EnumId) : Directory → Prop where
  | ofItems : HasDirectory id (.declared id.Item)
  | ofId : HasDirectory id id.directory
  | ofName {directory : Directory} (found : findDirectory? id.name = some directory) :
      HasDirectory id directory

/-- All ways lead to one directory. -/
theorem HasDirectory.eq {id : EnumId} {directory : Directory}
    (has : id.HasDirectory directory) : directory = id.directory := by
  cases has with
  | ofItems => exact id.directory_eq_declared.symm
  | ofId => rfl
  | ofName found =>
      obtain ⟨other, sameName, rfl⟩ := findDirectory?_eq_some_iff.mp found
      rw [name_injective sameName]

/-! ### Items and names of an integer -/

/-- Every lookup of `value` gives `item` or its name, the item has this value and goes by this
name wherever it is named, and its name is read as the item in any ASCII casing. -/
structure AllName (id : EnumId) (value : Int32) (directory : Directory) (item : id.Item)
    (name : String) : Prop where
  ofValue? : Enumeration.ofValue? id.Item value = some item
  ofValue : Enumeration.ofValue id.Item value = .ok item
  contains : directory.contains value = true
  directory_nameOf : directory.nameOf value = .ok name
  value_eq : Enumeration.value item = value
  itemName_eq : Enumeration.itemName item = name
  nameOf : Enumeration.nameOf id.Item item = .ok name
  codebook_nameOf : (Enumeration.codebook id.Item).nameOf item = .ok name
  directory_nameOfItem : directory.nameOfItem item = .ok name
  parse_iff : ∀ text, Enumeration.parse id.Item text = .ok item ↔ EqUpToCase text name

/-- Every lookup of `value` fails, and those that give a reason give the same one. -/
structure NoneNames (id : EnumId) (value : Int32) (directory : Directory) : Prop where
  ofValue? : Enumeration.ofValue? id.Item value = none
  ofValue : Enumeration.ofValue id.Item value = .error (.unknownValue id.name value)
  contains : directory.contains value = false
  directory_nameOf : directory.nameOf value = .error (.unknownValue id.name value)

theorem allName_value {id : EnumId} (item : id.Item) :
    AllName id (Enumeration.value item) id.directory item (Enumeration.itemName item) := by
  have found : Enumeration.ofValue? id.Item (Enumeration.value item) = some item :=
    Enumeration.ofValue?_eq_some_iff.mpr rfl
  have named := nameOf_value item
  have inCodebook : (Enumeration.codebook id.Item).nameOf item =
      .ok (Enumeration.itemName item) :=
    (id.codebook_agreesWith.nameOf_eq_nameOf item).trans named
  exact
    { ofValue? := found
      ofValue := by rw [Enumeration.ofValue, found]
      contains := by rw [Directory.contains, named]; rfl
      directory_nameOf := named
      value_eq := rfl
      itemName_eq := rfl
      nameOf := inCodebook
      codebook_nameOf := inCodebook
      directory_nameOfItem := named
      parse_iff := fun _ => Enumeration.parse_eq_ok_iff_eqUpToCase }

theorem noneNames_of_undeclared {id : EnumId} {value : Int32}
    (undeclared : ∀ item : id.Item, Enumeration.value item ≠ value) :
    NoneNames id value id.directory := by
  have missing : Enumeration.ofValue? id.Item value = none := by
    rw [Option.eq_none_iff_forall_ne_some]
    intro item found
    exact undeclared item (Enumeration.ofValue?_eq_some_iff.mp found)
  have unnamed : id.directory.nameOf value = .error (.unknownValue id.name value) :=
    nameOf_eq_error_iff.mpr ⟨undeclared, rfl⟩
  exact
    { ofValue? := missing
      ofValue := by rw [Enumeration.ofValue, missing, id.name_item]
      contains := by rw [Directory.contains, unnamed]; rfl
      directory_nameOf := unnamed }

/-- For every integer all lookups give one item and its name, or all of them fail alike,
whichever way the directory of the enumeration is come by.  It is come by under the name of
the enumeration, letter for letter, and under no other name. -/
theorem values_by_every_way (id : EnumId) (value : Int32) :
    ((∃ item name, ∀ directory, id.HasDirectory directory →
        AllName id value directory item name) ∨
      ∀ directory, id.HasDirectory directory → NoneNames id value directory) ∧
      findDirectory? id.name = some id.directory ∧
      ∀ wanted, findDirectory? wanted = none ↔ ∀ other : EnumId, other.name ≠ wanted := by
  refine ⟨?_, ?_, ?_⟩
  · by_cases declared : ∃ item : id.Item, Enumeration.value item = value
    · obtain ⟨item, rfl⟩ := declared
      refine .inl ⟨item, Enumeration.itemName item, ?_⟩
      intro directory has
      rw [has.eq]
      exact allName_value item
    · apply Or.inr
      intro directory has
      rw [has.eq]
      exact noneNames_of_undeclared (not_exists.mp declared)
  · exact findDirectory?_eq_some_iff.mpr ⟨id, rfl, rfl⟩
  · intro wanted
    exact findDirectory?_eq_none_iff

end CardCodex.EnumId
