/-
Module: CardCodex.Proofs.Declarations
Purpose: Which lists of declarations make a codebook.  A list is accepted when its names are
  in upper case and no name and no item comes twice; otherwise its first faulty declaration
  is reported, and of its faults the first that is looked for.  The codebook of an accepted
  list looks names and items up in that list.
Main exports: Codebook.Consistent, Codebook.Faulty, Codebook.consistent_or_faulty,
  Codebook.ofItems_of_consistent, Codebook.ofItems_of_faulty, Codebook.Inverts,
  Codebook.Verdict, Codebook.ofItems_verdict
-/
import CardCodex.Proofs.Lookup

namespace CardCodex

namespace Assoc

variable {K V W : Type} [DecidableEq K]

/-- Pairs with distinct keys are all found. -/
theorem find?_ofList_eq_some_iff {pairs : List (K × V)} (distinct : (pairs.map Prod.fst).Nodup)
    {key : K} {value : V} : (ofList pairs).find? key = some value ↔ (key, value) ∈ pairs := by
  rw [find?_eq_some_iff (distinctKeys_ofList pairs), entries_ofList_of_nodup distinct]

theorem findIn_map_value (change : V → W) (key : K) (pairs : List (K × V)) :
    findIn key (pairs.map fun pair => (pair.1, change pair.2)) =
      (findIn key pairs).map change := by
  induction pairs with
  | nil => rfl
  | cons pair rest inductionHypothesis =>
      by_cases same : pair.1 = key <;> simp [findIn, same, inductionHypothesis]

/-- Changing the values of a list of pairs changes what its table finds. -/
theorem find?_ofList_map_value (change : V → W) (pairs : List (K × V)) (key : K) :
    (ofList (pairs.map fun pair => (pair.1, change pair.2))).find? key =
      ((ofList pairs).find? key).map change := by
  rw [find?_ofList, find?_ofList, ← List.map_reverse, findIn_map_value]

theorem isSome_find?_ofList_iff {pairs : List (K × V)} {key : K} :
    ((ofList pairs).find? key).isSome ↔ key ∈ pairs.map Prod.fst := by
  rw [isSome_find?_iff, keys_ofList, List.mem_eraseDups]

end Assoc

namespace Codebook

variable {E : Type}

/-! ### Faults in a list of declarations -/

/-- Declarations that can stand in one codebook. -/
structure Consistent (declarations : List (String × E)) : Prop where
  /-- No name holds an ASCII lower case letter. -/
  names_upper : ∀ declaration ∈ declarations, ∀ c ∈ declaration.1.toList, c.isLower = false
  names_nodup : (declarations.map Prod.fst).Nodup
  items_nodup : (declarations.map Prod.snd).Nodup

/-- What is wrong with a declaration that comes after the declarations `before`, as a fault
and in words.  Of several faults the first one counts: a lower case letter, then a name that
is taken, then an item that is. -/
inductive Faulty [Enumeration E] (enumName : String) (before : List (String × E)) :
    String × E → DeclarationFault → String → Prop where
  | notUpperCase {name : String} {item : E} {c : Char} (letter : c ∈ name.toList)
      (lower : c.isLower = true) :
      Faulty enumName before (name, item) (.notUpperCase enumName name)
        ("item `" ++ name ++ "` of enum " ++ enumName ++ " is not upper case")
  | repeatedName {name : String} {item : E} (upper : ∀ c ∈ name.toList, c.isLower = false)
      (taken : name ∈ before.map Prod.fst) :
      Faulty enumName before (name, item) (.repeatedName enumName name)
        ("enum " ++ enumName ++ " declares item `" ++ name ++ "` twice")
  | repeatedValue {name first : String} {item : E}
      (upper : ∀ c ∈ name.toList, c.isLower = false) (free : name ∉ before.map Prod.fst)
      (taken : (first, item) ∈ before) :
      Faulty enumName before (name, item)
        (.repeatedValue enumName (Enumeration.value item) first name)
        ("enum " ++ enumName ++ " declares value " ++
          writtenInteger (Enumeration.value item).toInt ++ " for both `" ++ first ++ "` and `"
          ++ name ++ "`")

theorem Consistent.nil : Consistent ([] : List (String × E)) := by
  constructor
  · intro declaration impossible
    cases impossible
  · exact List.nodup_nil
  · exact List.nodup_nil

/-- A declaration may follow when its name is in upper case and its name and its item are
new. -/
theorem Consistent.append_singleton {before : List (String × E)} {name : String} {item : E}
    (consistent : Consistent before) (upper : ∀ c ∈ name.toList, c.isLower = false)
    (newName : name ∉ before.map Prod.fst) (newItem : item ∉ before.map Prod.snd) :
    Consistent (before ++ [(name, item)]) := by
  constructor
  · intro declaration member
    rcases List.mem_append.mp member with old | new
    · exact consistent.names_upper declaration old
    · obtain rfl := List.mem_singleton.mp new
      exact upper
  · rw [List.map_append, List.map_singleton, List.nodup_append_comm]
    exact List.nodup_cons.mpr ⟨newName, consistent.names_nodup⟩
  · rw [List.map_append, List.map_singleton, List.nodup_append_comm]
    exact List.nodup_cons.mpr ⟨newItem, consistent.items_nodup⟩

section Faults

variable [Enumeration E]

/-- A declaration may follow consistent ones or has a fault. -/
theorem Consistent.append_or_faulty (enumName : String) {before : List (String × E)}
    (consistent : Consistent before) (entry : String × E) :
    Consistent (before ++ [entry]) ∨
      ∃ fault, Faulty enumName before entry fault fault.message := by
  obtain ⟨name, item⟩ := entry
  by_cases upper : ∀ c ∈ name.toList, c.isLower = false
  · by_cases takenName : name ∈ before.map Prod.fst
    · exact .inr ⟨_, .repeatedName upper takenName⟩
    · by_cases takenItem : item ∈ before.map Prod.snd
      · obtain ⟨⟨first, _⟩, member, rfl⟩ := List.mem_map.mp takenItem
        exact .inr ⟨_, .repeatedValue upper takenName member⟩
      · exact .inl (consistent.append_singleton upper takenName takenItem)
  · push Not at upper
    obtain ⟨c, letter, lower⟩ := upper
    exact .inr ⟨_, .notUpperCase letter (by simpa using lower)⟩

/-- Declarations are consistent, or there is a first one with a fault. -/
theorem consistent_or_faulty (enumName : String) (declarations : List (String × E)) :
    Consistent declarations ∨
      ∃ before entry after fault, declarations = before ++ entry :: after ∧
        Consistent before ∧ Faulty enumName before entry fault fault.message := by
  -- From the end: a fault among the earlier declarations is the first one, and only when
  -- these are consistent does the last declaration count.
  induction declarations using List.reverseRecOn with
  | nil => exact .inl .nil
  | append_singleton declarations entry inductionHypothesis =>
      rcases inductionHypothesis with consistent | ⟨before, faulty, after, fault, rfl, found⟩
      · rcases consistent.append_or_faulty enumName entry with longer | ⟨fault, faulty⟩
        · exact .inl longer
        · exact .inr ⟨declarations, entry, [], fault, rfl, consistent, faulty⟩
      · refine .inr ⟨before, faulty, after ++ [entry], fault, ?_, found⟩
        rw [List.append_assoc, List.cons_append]

end Faults

/-! ### What becomes of a list of declarations -/

variable [DecidableEq E] [Enumeration E] {enumName : String}

/-- Consistent declarations make a codebook. -/
theorem ofItems_of_consistent (enumName : String) {declarations : List (String × E)}
    (consistent : Consistent declarations) :
    ∃ book, ofItems enumName declarations = .ok book := by
  apply foldlM_declare_isOk
  · intro declaration member
    exact isCanonical_iff.mpr (consistent.names_upper declaration member)
  · exact consistent.names_nodup
  · exact consistent.items_nodup

omit [Enumeration E] in
/-- The names of consistent declarations are found by item. -/
theorem Consistent.find?_nameByItem_iff {declarations : List (String × E)}
    (consistent : Consistent declarations) {item : E} {name : String} :
    (Assoc.ofList (declarations.map fun entry => (entry.2, entry.1))).find? item = some name ↔
      (name, item) ∈ declarations := by
  have distinct : ((declarations.map fun entry => (entry.2, entry.1)).map Prod.fst).Nodup := by
    simpa [Function.comp_def] using consistent.items_nodup
  rw [Assoc.find?_ofList_eq_some_iff distinct, List.mem_map]
  constructor
  · rintro ⟨⟨_, _⟩, member, same⟩
    cases same
    exact member
  · intro member
    exact ⟨(name, item), member, rfl⟩

/-- A codebook of consistent declarations does not take a faulty one. -/
theorem declare_of_faulty {before : List (String × E)} {book : Codebook E}
    {entry : String × E} {fault : DeclarationFault} {words : String}
    (consistent : Consistent before) (built : ofItems enumName before = .ok book)
    (faulty : Faulty enumName before entry fault words) :
    book.declare entry.1 entry.2 = .error fault := by
  obtain rfl := eq_of_ofItems_eq_ok built
  cases faulty with
  | @notUpperCase name item c letter lower =>
      have noKey : isCanonical name = false := by
        rw [← Bool.not_eq_true, isCanonical_iff]
        intro upper
        rw [upper c letter] at lower
        cases lower
      simp [declare, noKey]
  | @repeatedName name item upper taken =>
      have key : isCanonical name = true := isCanonical_iff.mpr upper
      have known : ((Assoc.ofList before).find? name).isSome = true :=
        Assoc.isSome_find?_ofList_iff.mpr taken
      simp [declare, key, known]
  | @repeatedValue name first item upper free taken =>
      have key : isCanonical name = true := isCanonical_iff.mpr upper
      have unknown : (Assoc.ofList before).find? name = none := by
        rw [← Option.not_isSome_iff_eq_none, Assoc.isSome_find?_ofList_iff]
        exact free
      -- The items so far are distinct, so the name found for the item is the one in the fault.
      have held := consistent.find?_nameByItem_iff.mpr taken
      simp [declare, key, unknown, held]

/-- A fault is reported when the declarations before it are consistent. -/
theorem ofItems_of_faulty {before : List (String × E)} {entry : String × E}
    {fault : DeclarationFault} {words : String} (consistent : Consistent before)
    (faulty : Faulty enumName before entry fault words) (after : List (String × E)) :
    ofItems enumName (before ++ entry :: after) = .error fault := by
  obtain ⟨book, built⟩ := ofItems_of_consistent enumName consistent
  have refused : (entry :: after).foldlM (fun book entry => book.declare entry.1 entry.2) book =
      (.error fault : Except DeclarationFault (Codebook E)) := by
    rw [List.foldlM_cons, declare_of_faulty consistent built faulty]
    rfl
  rw [ofItems] at built
  rw [ofItems, List.foldlM_append, built]
  exact refused

theorem consistent_of_ofItems_eq_ok {declarations : List (String × E)} {book : Codebook E}
    (accepted : ofItems enumName declarations = .ok book) : Consistent declarations := by
  rcases consistent_or_faulty enumName declarations with
    consistent | ⟨before, entry, after, fault, rfl, consistent, faulty⟩
  · exact consistent
  · rw [ofItems_of_faulty consistent faulty] at accepted
    cases accepted

/-- No name and no item comes twice among accepted declarations. -/
theorem nodup_of_ofItems_eq_ok {declarations : List (String × E)} {book : Codebook E}
    (accepted : ofItems enumName declarations = .ok book) :
    (declarations.map Prod.fst).Nodup ∧ (declarations.map Prod.snd).Nodup :=
  have consistent := consistent_of_ofItems_eq_ok accepted
  ⟨consistent.names_nodup, consistent.items_nodup⟩

theorem faulty_of_ofItems_eq_error {declarations : List (String × E)} {fault : DeclarationFault}
    (refused : ofItems enumName declarations = .error fault) :
    ∃ before entry after, declarations = before ++ entry :: after ∧ Consistent before ∧
      Faulty enumName before entry fault fault.message := by
  rcases consistent_or_faulty enumName declarations with
    consistent | ⟨before, entry, after, found, rfl, consistent, faulty⟩
  · obtain ⟨book, accepted⟩ := ofItems_of_consistent enumName consistent
    rw [accepted] at refused
    cases refused
  · rw [ofItems_of_faulty consistent faulty] at refused
    cases refused
    exact ⟨before, entry, after, rfl, consistent, faulty⟩

/-! ### The codebook of an accepted list -/

/-- The value of a name is the value of its item. -/
theorem valueOf_eq_map_itemOf {declarations : List (String × E)} {book : Codebook E}
    (accepted : ofItems enumName declarations = .ok book) (name : String) :
    book.valueOf name = (book.itemOf name).map Enumeration.value := by
  obtain rfl := eq_of_ofItems_eq_ok accepted
  rw [valueOf, itemOf, Assoc.find?_ofList_map_value]
  cases (Assoc.ofList declarations).find? (canonical name) <;> rfl

/-- A codebook looks names and items up in a list of declarations. -/
structure Inverts (book : Codebook E) (declarations : List (String × E)) : Prop where
  itemOf_eq_ok_iff : ∀ name item,
    book.itemOf name = .ok item ↔ (upperCase name, item) ∈ declarations
  nameOf_eq_ok_iff : ∀ item name, book.nameOf item = .ok name ↔ (name, item) ∈ declarations
  /-- Lookups by name and by item undo each other. -/
  itemOf_iff_nameOf : ∀ name item,
    book.itemOf name = .ok item ↔ book.nameOf item = .ok (upperCase name)
  itemOf_declared : ∀ declaration ∈ declarations, book.itemOf declaration.1 = .ok declaration.2
  nameOf_declared : ∀ declaration ∈ declarations, book.nameOf declaration.2 = .ok declaration.1
  /-- The value of a name is the value of its item, and is missing for the same reason. -/
  valueOf_eq : ∀ name, book.valueOf name = (book.itemOf name).map Enumeration.value
  items_eq : book.items = declarations

theorem inverts_of_ofItems_eq_ok {declarations : List (String × E)} {book : Codebook E}
    (accepted : ofItems enumName declarations = .ok book) : book.Inverts declarations := by
  have consistent := consistent_of_ofItems_eq_ok accepted
  have byName (name : String) (item : E) :
      book.itemOf name = .ok item ↔ (upperCase name, item) ∈ declarations := by
    obtain rfl := eq_of_ofItems_eq_ok accepted
    rw [← Assoc.find?_ofList_eq_some_iff consistent.names_nodup, itemOf, canonical_eq_upperCase]
    cases (Assoc.ofList declarations).find? (upperCase name) <;> simp
  have byItem (item : E) (name : String) :
      book.nameOf item = .ok name ↔ (name, item) ∈ declarations := by
    obtain rfl := eq_of_ofItems_eq_ok accepted
    rw [← consistent.find?_nameByItem_iff, nameOf]
    cases (Assoc.ofList (declarations.map fun entry => (entry.2, entry.1))).find? item <;> simp
  refine
    { itemOf_eq_ok_iff := byName
      nameOf_eq_ok_iff := byItem
      itemOf_iff_nameOf := fun name item => (byName name item).trans (byItem item _).symm
      itemOf_declared := ?_
      nameOf_declared := fun declaration member => (byItem _ _).mpr member
      valueOf_eq := valueOf_eq_map_itemOf accepted
      items_eq := by rw [eq_of_ofItems_eq_ok accepted] }
  intro declaration member
  rw [byName, upperCase_eq_self (isCanonical_iff.mpr (consistent.names_upper _ member))]
  exact member

/-- What becomes of a list of declarations: a codebook of it, or its first fault. -/
structure Verdict (enumName : String) (declarations : List (String × E))
    (outcome : Except DeclarationFault (Codebook E)) : Prop where
  accepted_iff : (∃ book, outcome = .ok book) ↔ Consistent declarations
  /-- The declarations before the reported one are consistent, so it is the first that is
  faulty, and at most one of them has its item. -/
  refused_iff : ∀ fault, outcome = .error fault ↔
    ∃ before entry after, declarations = before ++ entry :: after ∧ Consistent before ∧
      Faulty enumName before entry fault fault.message
  inverts : ∀ book, outcome = .ok book → book.Inverts declarations

/-- A list of declarations makes a codebook that looks names and items up in it exactly when
it is consistent, and is refused for its first fault otherwise. -/
theorem ofItems_verdict (enumName : String) (declarations : List (String × E)) :
    Verdict enumName declarations (ofItems enumName declarations) := by
  constructor
  · constructor
    · rintro ⟨book, accepted⟩
      exact consistent_of_ofItems_eq_ok accepted
    · exact ofItems_of_consistent enumName
  · intro fault
    constructor
    · exact faulty_of_ofItems_eq_error
    · rintro ⟨before, entry, after, rfl, consistent, faulty⟩
      exact ofItems_of_faulty consistent faulty after
  · intro book accepted
    exact inverts_of_ofItems_eq_ok accepted

end Codebook

end CardCodex
