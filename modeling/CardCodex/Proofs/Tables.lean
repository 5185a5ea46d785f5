/-
Module: CardCodex.Proofs.Tables
Purpose: What a directory answers that is built from two tables, which need not describe the
  same items.  Values are looked up by name in the one and names by value in the other, the
  entries are those of the second in ascending order, and the order in which the tables were
  filled does not show.
Main exports: Directory.entries_unique, Directory.ofTables_of_perm, Directory.ItemAnswer,
  Directory.AnswersTables, Directory.ofTables_answersTables
-/
import CardCodex.Proofs.Agreement

namespace CardCodex.Directory

variable {enumName : String} {valueByName : Assoc String Int32} {nameByValue : Assoc Int32 String}

/-! ### Entries -/

theorem mem_entries_ofTables_iff {name : String} {value : Int32} :
    (name, value) ∈ (ofTables enumName valueByName nameByValue).entries ↔
      (value, name) ∈ nameByValue.entries := by
  rw [(entries_ofTables_perm enumName valueByName nameByValue).mem_iff, List.mem_map]
  constructor
  · rintro ⟨⟨_, _⟩, member, same⟩
    cases same
    exact member
  · intro member
    exact ⟨(value, name), member, rfl⟩

/-- There is only one way to list the entries of a table in ascending order, in whatever order
the table gives them and by whatever method they are sorted. -/
theorem entries_unique (distinct : nameByValue.DistinctKeys) {listed : List (String × Int32)}
    (perm : listed.Perm (nameByValue.entries.map fun entry => (entry.2, entry.1)))
    (sorted : listed.Pairwise fun first second => first.2 ≤ second.2) :
    listed = (ofTables enumName valueByName nameByValue).entries := by
  have entriesPerm := entries_ofTables_perm enumName valueByName nameByValue
  have increasing := entries_ofTables_increasing enumName valueByName distinct
  have samePerm := perm.trans entriesPerm.symm
  apply List.Perm.eq_of_pairwise _ sorted (increasing.imp Int32.le_of_lt) samePerm
  intro first second firstMember secondMember le ge
  -- Entries with one value are one entry, since the values are the keys of the table.
  have valuesNodup : ((ofTables enumName valueByName nameByValue).entries.map Prod.snd).Nodup :=
    List.pairwise_map.mpr (increasing.imp Int32.ne_of_lt)
  exact List.inj_on_of_nodup_map valuesNodup (samePerm.mem_iff.mp firstMember) secondMember
    (Int32.le_antisymm le ge)

/-! ### Lookups -/

/-- A directory of tables that were filled in another order has the same entries and answers
alike. -/
theorem ofTables_of_perm (distinctNames : valueByName.DistinctKeys)
    (distinctValues : nameByValue.DistinctKeys) {otherNames : Assoc String Int32}
    {otherValues : Assoc Int32 String} (namesPerm : valueByName.entries.Perm otherNames.entries)
    (valuesPerm : nameByValue.entries.Perm otherValues.entries) :
    (ofTables enumName otherNames otherValues).entries =
        (ofTables enumName valueByName nameByValue).entries ∧
      (∀ name, (ofTables enumName otherNames otherValues).valueOf name =
        (ofTables enumName valueByName nameByValue).valueOf name) ∧
      ∀ value, (ofTables enumName otherNames otherValues).nameOf value =
        (ofTables enumName valueByName nameByValue).nameOf value := by
  refine ⟨?_, ?_, ?_⟩
  · apply entries_unique distinctValues
    · exact (entries_ofTables_perm enumName otherNames otherValues).trans
        (valuesPerm.symm.map _)
    · exact (entries_ofTables_increasing enumName otherNames
        (distinctValues.of_perm valuesPerm)).imp Int32.le_of_lt
  · intro name
    rw [valueOf, valueOf]
    simp only [ofTables, distinctNames.find?_of_perm namesPerm]
  · intro value
    rw [nameOf, nameOf]
    simp only [ofTables, distinctValues.find?_of_perm valuesPerm]

theorem nameOf_ofTables_eq_ok_iff (distinct : nameByValue.DistinctKeys) {value : Int32}
    {name : String} :
    (ofTables enumName valueByName nameByValue).nameOf value = .ok name ↔
      (value, name) ∈ nameByValue.entries := by
  rw [← Assoc.find?_eq_some_iff distinct, nameOf]
  simp only [ofTables]
  cases nameByValue.find? value <;> simp

theorem nameOf_ofTables_eq_error_iff {value : Int32} {reason : LookupError} :
    (ofTables enumName valueByName nameByValue).nameOf value = .error reason ↔
      value ∉ nameByValue.keys ∧ reason = .unknownValue enumName value := by
  rw [← Assoc.find?_eq_none_iff, nameOf]
  simp only [ofTables]
  cases nameByValue.find? value <;> simp [eq_comm]

theorem valueOf_ofTables_eq_ok_iff (distinct : valueByName.DistinctKeys) {name : String}
    {value : Int32} :
    (ofTables enumName valueByName nameByValue).valueOf name = .ok value ↔
      (upperCase name, value) ∈ valueByName.entries := by
  rw [← Assoc.find?_eq_some_iff distinct, valueOf, canonical_eq_upperCase]
  simp only [ofTables]
  cases valueByName.find? (upperCase name) <;> simp

theorem valueOf_ofTables_eq_error_iff {name : String} {reason : LookupError} :
    (ofTables enumName valueByName nameByValue).valueOf name = .error reason ↔
      upperCase name ∉ valueByName.keys ∧ reason = .unknownName enumName name := by
  rw [← Assoc.find?_eq_none_iff, valueOf, canonical_eq_upperCase]
  simp only [ofTables]
  cases valueByName.find? (upperCase name) <;> simp [eq_comm]

/-- A key with an ASCII lower case letter is the lookup key of no name. -/
theorem upperCase_ne_of_isLower {key : String} {c : Char} (letter : c ∈ key.toList)
    (lower : c.isLower = true) (name : String) : upperCase name ≠ key := by
  rintro rfl
  have upper := isCanonical_iff.mp (isCanonical_upperCase name) c letter
  rw [lower] at upper
  cases upper

/-! ### Items -/

/-- What a table of values by name has to answer when the item of a name is asked for. -/
inductive ItemAnswer (E : Type) [Enumeration E] (enumName : String)
    (valueByName : Assoc String Int32) (name : String) : Except LookupError E → Prop where
  | item (item : E) (held : (upperCase name, Enumeration.value item) ∈ valueByName.entries) :
      ItemAnswer E enumName valueByName name (.ok item)
  | unknownName (missing : upperCase name ∉ valueByName.keys) :
      ItemAnswer E enumName valueByName name (.error (.unknownName enumName name))
  | undeclared {value : Int32} (held : (upperCase name, value) ∈ valueByName.entries)
      (undeclared : ∀ item : E, Enumeration.value item ≠ value) :
      ItemAnswer E enumName valueByName name (.error (.unknownValue enumName value))

section Items

variable {E : Type} [Enumeration E]

theorem itemAnswer_itemOf (enumName : String) (nameByValue : Assoc Int32 String)
    (distinct : valueByName.DistinctKeys) (name : String) :
    ItemAnswer E enumName valueByName name
      ((ofTables enumName valueByName nameByValue).itemOf E name) := by
  rw [itemOf]
  cases answered : (ofTables enumName valueByName nameByValue).valueOf name with
  | error reason =>
      obtain ⟨missing, rfl⟩ := valueOf_ofTables_eq_error_iff.mp answered
      exact .unknownName missing
  | ok value =>
      have held := (valueOf_ofTables_eq_ok_iff distinct).mp answered
      dsimp only
      cases found : Enumeration.ofValue? E value with
      | some item =>
          obtain rfl := Enumeration.ofValue?_eq_some_iff.mp found
          exact .item item held
      | none =>
          apply ItemAnswer.undeclared held
          intro item valued
          rw [Enumeration.ofValue?_eq_some_iff.mpr valued] at found
          cases found

theorem ItemAnswer.functional (distinct : valueByName.DistinctKeys) {name : String}
    {first second : Except LookupError E} (one : ItemAnswer E enumName valueByName name first)
    (two : ItemAnswer E enumName valueByName name second) : first = second := by
  have notMissing {value : Int32} (held : (upperCase name, value) ∈ valueByName.entries) :
      upperCase name ∈ valueByName.keys := List.mem_map.mpr ⟨_, held, rfl⟩
  have sameValue {value other : Int32} (held : (upperCase name, value) ∈ valueByName.entries)
      (heldOther : (upperCase name, other) ∈ valueByName.entries) : value = other := by
    rw [← Assoc.find?_eq_some_iff distinct] at held heldOther
    exact Option.some.inj (held.symm.trans heldOther)
  cases one with
  | item item held =>
      cases two with
      | item other heldOther =>
          rw [Enumeration.value_injective (sameValue held heldOther)]
      | unknownName missing => exact absurd (notMissing held) missing
      | undeclared heldOther undeclared =>
          exact absurd (sameValue held heldOther) (undeclared item)
  | unknownName missing =>
      cases two with
      | item other heldOther => exact absurd (notMissing heldOther) missing
      | unknownName _ => rfl
      | undeclared heldOther _ => exact absurd (notMissing heldOther) missing
  | undeclared held undeclared =>
      cases two with
      | item other heldOther => exact absurd (sameValue heldOther held) (undeclared other)
      | unknownName missing => exact absurd (notMissing held) missing
      | undeclared heldOther _ => rw [sameValue held heldOther]

end Items

/-! ### Directories of two tables -/

/-- A directory lists the entries of `nameByValue` and answers each lookup from the table that
it goes by.  The tables need not describe the same items. -/
structure AnswersTables (E : Type) [Enumeration E] (directory : Directory) (enumName : String)
    (valueByName : Assoc String Int32) (nameByValue : Assoc Int32 String) : Prop where
  mem_entries_iff : ∀ name value,
    (name, value) ∈ directory.entries ↔ (value, name) ∈ nameByValue.entries
  entries_increasing : directory.entries.Pairwise fun first second => first.2 < second.2
  /-- Any list of the entries of the table in ascending order is the list of the directory. -/
  entries_unique : ∀ listed : List (String × Int32),
    listed.Perm (nameByValue.entries.map fun entry => (entry.2, entry.1)) →
      listed.Pairwise (fun first second => first.2 ≤ second.2) → listed = directory.entries
  /-- The order in which the tables were filled does not show. -/
  filled_in_any_order : ∀ (names : List (String × Int32)) (values : List (Int32 × String)),
    valueByName.entries.Perm names → nameByValue.entries.Perm values →
      (ofTables enumName (.ofList names) (.ofList values)).entries = directory.entries ∧
        (∀ name, (ofTables enumName (.ofList names) (.ofList values)).valueOf name =
          directory.valueOf name) ∧
        ∀ value, (ofTables enumName (.ofList names) (.ofList values)).nameOf value =
          directory.nameOf value
  nameOf_eq_ok_iff : ∀ value name,
    directory.nameOf value = .ok name ↔ (name, value) ∈ directory.entries
  nameOf_eq_error_iff : ∀ value reason, directory.nameOf value = .error reason ↔
    (∀ name, (name, value) ∉ directory.entries) ∧ reason = .unknownValue enumName value
  contains_iff : ∀ value,
    directory.contains value = true ↔ ∃ name, (name, value) ∈ directory.entries
  valueOf_eq_ok_iff : ∀ name value,
    directory.valueOf name = .ok value ↔ (upperCase name, value) ∈ valueByName.entries
  valueOf_eq_error_iff : ∀ name reason, directory.valueOf name = .error reason ↔
    upperCase name ∉ valueByName.keys ∧ reason = .unknownName enumName name
  /-- A key with an ASCII lower case letter is never found. -/
  valueOf_of_lower : ∀ key c, c ∈ key.toList → c.isLower = true → ∀ value name,
    (ofTables enumName (valueByName.insert key value) nameByValue).valueOf name =
      directory.valueOf name
  itemOf_eq_iff : ∀ name answer,
    directory.itemOf E name = answer ↔ ItemAnswer E enumName valueByName name answer

/-- A directory answers exactly the tables that it is built from, whatever these say. -/
theorem ofTables_answersTables (E : Type) [Enumeration E] (enumName : String)
    {valueByName : Assoc String Int32} {nameByValue : Assoc Int32 String}
    (distinctNames : valueByName.DistinctKeys) (distinctValues : nameByValue.DistinctKeys) :
    (ofTables enumName valueByName nameByValue).AnswersTables E enumName valueByName
      nameByValue := by
  have isKey {value : Int32} : value ∈ nameByValue.keys ↔
      ∃ name, (name, value) ∈ (ofTables enumName valueByName nameByValue).entries := by
    simp [Assoc.keys, mem_entries_ofTables_iff]
  constructor
  · intro name value
    exact mem_entries_ofTables_iff
  · exact entries_ofTables_increasing enumName valueByName distinctValues
  · intro listed
    exact entries_unique distinctValues
  · intro names values namesPerm valuesPerm
    have namesNodup : (names.map Prod.fst).Nodup := distinctNames.of_perm namesPerm
    have valuesNodup : (values.map Prod.fst).Nodup := distinctValues.of_perm valuesPerm
    apply ofTables_of_perm distinctNames distinctValues
    · rw [Assoc.entries_ofList_of_nodup namesNodup]
      exact namesPerm
    · rw [Assoc.entries_ofList_of_nodup valuesNodup]
      exact valuesPerm
  · intro value name
    rw [mem_entries_ofTables_iff]
    exact nameOf_ofTables_eq_ok_iff distinctValues
  · intro value reason
    rw [← not_exists, ← isKey]
    exact nameOf_ofTables_eq_error_iff
  · intro value
    rw [← isKey, ← Assoc.isSome_find?_iff, contains, nameOf]
    simp only [ofTables]
    cases nameByValue.find? value <;> rfl
  · intro name value
    exact valueOf_ofTables_eq_ok_iff distinctNames
  · intro name reason
    exact valueOf_ofTables_eq_error_iff
  · intro key c letter lower value name
    have otherKey : key ≠ upperCase name := (upperCase_ne_of_isLower letter lower name).symm
    rw [valueOf, valueOf, canonical_eq_upperCase]
    simp only [ofTables, Assoc.find?_insert, if_neg otherKey]
  · intro name answer
    have answered : ItemAnswer E enumName valueByName name _ :=
      itemAnswer_itemOf enumName nameByValue distinctNames name
    constructor
    · rintro rfl
      exact answered
    · exact answered.functional distinctNames

/-- A table that spells a name in lower case and has a value that no zone has. -/
def oddNames : Assoc String Int32 :=
  ⟨[("PLAY", 99), ("hand", 2), ("DECK", 3)]⟩

/-- A table that contradicts `oddNames` and is not in the order of its values. -/
def oddValues : Assoc Int32 String :=
  ⟨[(3, "PLAY"), (-5, "hand"), (1, "DECK")]⟩

theorem oddTables_answersTables :
    oddNames.DistinctKeys ∧ oddValues.DistinctKeys ∧
      (ofTables "Place" oddNames oddValues).AnswersTables Zone "Place" oddNames oddValues := by
  have distinctNames : oddNames.DistinctKeys := (by decide : oddNames.keys.Nodup)
  have distinctValues : oddValues.DistinctKeys := (by decide : oddValues.keys.Nodup)
  exact ⟨distinctNames, distinctValues,
    ofTables_answersTables Zone "Place" distinctNames distinctValues⟩

end CardCodex.Directory
