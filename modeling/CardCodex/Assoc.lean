/-
Module: CardCodex.Assoc
Purpose: Finite tables that remember the order in which their keys first came.
Main exports: Assoc, Assoc.find?, Assoc.insert, Assoc.ofList, Assoc.find?_insert,
  Assoc.keys_insert_of_mem, Assoc.keys_insert_of_not_mem
-/

namespace CardCodex

/-- A table of keys and values.  Keys stay in the order of their first
insertion; a later value for a key takes the place of the earlier one. -/
structure Assoc (K V : Type) where
  entries : List (K × V)
deriving DecidableEq, Repr

namespace Assoc

variable {K V : Type}

/-- The table without entries. -/
def empty : Assoc K V :=
  ⟨[]⟩

/-- The keys of the table, in order. -/
def keys (table : Assoc K V) : List K :=
  table.entries.map Prod.fst

/-- The number of entries. -/
def size (table : Assoc K V) : Nat :=
  table.entries.length

@[simp] theorem keys_empty : (empty : Assoc K V).keys = [] := rfl

variable [DecidableEq K]

/-- The value of the first pair with key `key`. -/
def findIn (key : K) : List (K × V) → Option V
  | [] => none
  | (other, value) :: rest => if other = key then some value else findIn key rest

/-- The value held for `key`. -/
def find? (table : Assoc K V) (key : K) : Option V :=
  findIn key table.entries

/-- Replaces the value of the first pair with key `key`, or adds a pair at the
end when there is none. -/
def insertIn (key : K) (value : V) : List (K × V) → List (K × V)
  | [] => [(key, value)]
  | (other, held) :: rest =>
      if other = key then (key, value) :: rest
      else (other, held) :: insertIn key value rest

/-- Holds `value` for `key`, in the place the key already has or else last. -/
def insert (table : Assoc K V) (key : K) (value : V) : Assoc K V :=
  ⟨insertIn key value table.entries⟩

/-- The table of the pairs of a list: each key in its first place and with its
last value. -/
def ofList (pairs : List (K × V)) : Assoc K V :=
  pairs.foldl (fun table pair => table.insert pair.1 pair.2) empty

@[simp] theorem find?_empty (key : K) : (empty : Assoc K V).find? key = none := rfl

theorem findIn_insertIn (key wanted : K) (value : V) (pairs : List (K × V)) :
    findIn wanted (insertIn key value pairs) =
      if key = wanted then some value else findIn wanted pairs := by
  induction pairs with
  | nil => simp [insertIn, findIn]
  | cons pair rest inductionHypothesis =>
      obtain ⟨other, held⟩ := pair
      by_cases same : other = key
      · subst same
        by_cases hit : other = wanted <;> simp [insertIn, findIn, hit]
      · by_cases hit : other = wanted
        · subst hit
          simp [insertIn, findIn, same, Ne.symm same]
        · simp [insertIn, findIn, same, hit, inductionHypothesis]

/-- An inserted value is found under its key, and no other key is touched. -/
theorem find?_insert (table : Assoc K V) (key wanted : K) (value : V) :
    (table.insert key value).find? wanted =
      if key = wanted then some value else table.find? wanted :=
  findIn_insertIn key wanted value table.entries

theorem findIn_eq_none_iff {key : K} {pairs : List (K × V)} :
    findIn key pairs = none ↔ key ∉ pairs.map Prod.fst := by
  induction pairs with
  | nil => simp [findIn]
  | cons pair rest inductionHypothesis =>
      obtain ⟨other, held⟩ := pair
      by_cases same : other = key
      · simp [findIn, same]
      · simp [findIn, same, inductionHypothesis, Ne.symm same]

/-- A key is missing from a table exactly when nothing is found under it. -/
theorem find?_eq_none_iff {table : Assoc K V} {key : K} :
    table.find? key = none ↔ key ∉ table.keys :=
  findIn_eq_none_iff

theorem map_fst_insertIn (key : K) (value : V) (pairs : List (K × V)) :
    (insertIn key value pairs).map Prod.fst =
      if key ∈ pairs.map Prod.fst then pairs.map Prod.fst
      else pairs.map Prod.fst ++ [key] := by
  induction pairs with
  | nil => simp [insertIn]
  | cons pair rest inductionHypothesis =>
      obtain ⟨other, held⟩ := pair
      by_cases same : other = key
      · simp [insertIn, same]
      · by_cases present : key ∈ rest.map Prod.fst
        · rw [if_pos present] at inductionHypothesis
          simp only [insertIn, same, if_false, List.map_cons, inductionHypothesis]
          rw [if_pos (List.mem_cons_of_mem _ present)]
        · rw [if_neg present] at inductionHypothesis
          simp only [insertIn, same, if_false, List.map_cons, inductionHypothesis]
          rw [if_neg (by simpa [Ne.symm same] using present)]
          rfl

/-- A key that is already there keeps its place. -/
theorem keys_insert_of_mem {table : Assoc K V} {key : K} (value : V)
    (present : key ∈ table.keys) : (table.insert key value).keys = table.keys :=
  (map_fst_insertIn key value table.entries).trans (if_pos present)

/-- A new key goes last. -/
theorem keys_insert_of_not_mem {table : Assoc K V} {key : K} (value : V)
    (missing : key ∉ table.keys) :
    (table.insert key value).keys = table.keys ++ [key] :=
  (map_fst_insertIn key value table.entries).trans (if_neg missing)

end Assoc

end CardCodex
