/-
Module: CardCodex.Proofs.InsertionOrder
Purpose: What a run of insertions leaves in a table: every key once, in the place of
  its first insertion and with the value of its last one.
Main exports: Assoc.DistinctKeys, Assoc.DistinctKeys.find?_of_perm, Assoc.insertAll,
  Assoc.Merges, Assoc.Merges.entries_eq, Assoc.merges_ofList, Assoc.find?_ofList
-/
import Mathlib.Data.List.Induction
import CardCodex.Assoc

namespace CardCodex.Assoc

variable {K V : Type}

/-- No key has two entries. -/
def DistinctKeys (table : Assoc K V) : Prop :=
  table.keys.Nodup

variable [DecidableEq K]

/-! ### Lookups in a list of pairs -/

theorem findIn_append (key : K) (first second : List (K × V)) :
    findIn key (first ++ second) = (findIn key first).or (findIn key second) := by
  induction first with
  | nil => simp [findIn]
  | cons pair rest inductionHypothesis =>
      by_cases same : pair.1 = key <;> simp [findIn, same, inductionHypothesis]

theorem mem_of_findIn_eq_some {key : K} {value : V} {pairs : List (K × V)}
    (found : findIn key pairs = some value) : (key, value) ∈ pairs := by
  induction pairs with
  | nil => simp [findIn] at found
  | cons pair rest inductionHypothesis =>
      rcases pair with ⟨other, held⟩
      by_cases same : other = key
      · subst same
        have valueEq : held = value := by simpa [findIn] using found
        simp [valueEq]
      · have foundInRest : findIn key rest = some value := by
          simpa [findIn, same] using found
        exact List.mem_cons_of_mem _ (inductionHypothesis foundInRest)

theorem findIn_eq_some_of_mem {key : K} {value : V} {pairs : List (K × V)}
    (distinct : (pairs.map Prod.fst).Nodup) (member : (key, value) ∈ pairs) :
    findIn key pairs = some value := by
  induction pairs with
  | nil => simp at member
  | cons pair rest inductionHypothesis =>
      rcases pair with ⟨other, held⟩
      rw [List.map_cons, List.nodup_cons] at distinct
      rcases List.mem_cons.mp member with here | there
      · obtain ⟨rfl, rfl⟩ := Prod.mk.inj here
        simp [findIn]
      · have different : other ≠ key := by
          rintro rfl
          exact distinct.1 (List.mem_map.mpr ⟨_, there, rfl⟩)
        simp [findIn, different, inductionHypothesis distinct.2 there]

/-- In a table with distinct keys a lookup finds exactly the entries. -/
theorem find?_eq_some_iff {table : Assoc K V} (distinct : table.DistinctKeys)
    {key : K} {value : V} :
    table.find? key = some value ↔ (key, value) ∈ table.entries :=
  ⟨mem_of_findIn_eq_some, findIn_eq_some_of_mem distinct⟩

theorem isSome_find?_iff {table : Assoc K V} {key : K} :
    (table.find? key).isSome ↔ key ∈ table.keys := by
  rw [Option.isSome_iff_ne_none, Ne, find?_eq_none_iff, Decidable.not_not]

omit [DecidableEq K] in
theorem DistinctKeys.of_perm {first second : Assoc K V} (distinct : first.DistinctKeys)
    (perm : first.entries.Perm second.entries) : second.DistinctKeys :=
  (perm.map Prod.fst).nodup_iff.mp distinct

/-- Tables that differ in the order of their entries alone find the same values. -/
theorem DistinctKeys.find?_of_perm {first second : Assoc K V} (distinct : first.DistinctKeys)
    (perm : first.entries.Perm second.entries) (key : K) :
    first.find? key = second.find? key := by
  apply Option.ext
  intro value
  rw [find?_eq_some_iff distinct, find?_eq_some_iff (distinct.of_perm perm)]
  exact perm.mem_iff

/-! ### One insertion -/

theorem keys_insert (table : Assoc K V) (key : K) (value : V) :
    (table.insert key value).keys =
      if key ∈ table.keys then table.keys else table.keys ++ [key] :=
  map_fst_insertIn key value table.entries

omit [DecidableEq K] in
theorem DistinctKeys.empty : (Assoc.empty : Assoc K V).DistinctKeys := by
  simp [DistinctKeys]

theorem DistinctKeys.insert {table : Assoc K V} (distinct : table.DistinctKeys)
    (key : K) (value : V) : (table.insert key value).DistinctKeys := by
  rw [DistinctKeys, keys_insert]
  split
  · exact distinct
  · next missing =>
      refine List.nodup_append.mpr ⟨distinct, by simp, ?_⟩
      intro old oldMember new newMember same
      obtain rfl := List.mem_singleton.mp newMember
      exact missing (same ▸ oldMember)

/-- An entry of a table after an insertion is the new one or was there before. -/
theorem mem_entries_insert {table : Assoc K V} (distinct : table.DistinctKeys)
    {key other : K} {value held : V}
    (member : (other, held) ∈ (table.insert key value).entries) :
    (other = key ∧ held = value) ∨ (other, held) ∈ table.entries := by
  have found := (find?_eq_some_iff (distinct.insert key value)).mpr member
  rw [find?_insert] at found
  split at found
  · next same => exact .inl ⟨same.symm, (Option.some.inj found).symm⟩
  · exact .inr ((find?_eq_some_iff distinct).mp found)

/-- A pair with a new key goes last. -/
theorem entries_insert_of_not_mem {table : Assoc K V} {key : K} (value : V)
    (missing : key ∉ table.keys) :
    (table.insert key value).entries = table.entries ++ [(key, value)] := by
  rw [keys] at missing
  change insertIn key value table.entries = _
  generalize table.entries = pairs at missing ⊢
  induction pairs with
  | nil => rfl
  | cons pair rest inductionHypothesis =>
      rw [List.map_cons, List.mem_cons, not_or] at missing
      simp [insertIn, Ne.symm missing.1, inductionHypothesis missing.2]

/-- An insertion under the key of a pair changes that pair only. -/
theorem insertIn_eq_set {pairs : List (K × V)} {place : Nat} {key : K} {held : V}
    (distinct : (pairs.map Prod.fst).Nodup) (holds : pairs[place]? = some (key, held))
    (value : V) : insertIn key value pairs = pairs.set place (key, value) := by
  induction pairs generalizing place with
  | nil => simp at holds
  | cons pair rest inductionHypothesis =>
      rw [List.map_cons, List.nodup_cons] at distinct
      cases place with
      | zero =>
          have headEq : pair = (key, held) := by simpa using holds
          simp [insertIn, headEq]
      | succ place =>
          have inRest : rest[place]? = some (key, held) := by simpa using holds
          have different : pair.1 ≠ key := by
            rintro rfl
            exact distinct.1 (List.mem_map.mpr ⟨_, List.mem_of_getElem? inRest, rfl⟩)
          simp [insertIn, different, inductionHypothesis distinct.2 inRest]

/-- Inserting what is held already changes nothing. -/
theorem insertIn_eq_self {key : K} {value : V} {pairs : List (K × V)}
    (held : findIn key pairs = some value) : insertIn key value pairs = pairs := by
  induction pairs with
  | nil => simp [findIn] at held
  | cons pair rest inductionHypothesis =>
      obtain ⟨other, old⟩ := pair
      by_cases same : other = key
      · subst same
        have oldEq : old = value := by simpa [findIn] using held
        simp [insertIn, oldEq]
      · have heldInRest : findIn key rest = some value := by simpa [findIn, same] using held
        simp [insertIn, same, inductionHypothesis heldInRest]

theorem insert_eq_self {table : Assoc K V} {key : K} {value : V}
    (held : table.find? key = some value) : table.insert key value = table :=
  congrArg mk (insertIn_eq_self held)

/-- Tables with distinct keys are equal when they have the same keys in the same
order and find the same values. -/
theorem DistinctKeys.ext {first second : Assoc K V} (distinct : first.DistinctKeys)
    (sameKeys : first.keys = second.keys)
    (sameValues : ∀ key, first.find? key = second.find? key) : first = second := by
  rcases first with ⟨firstPairs⟩
  rcases second with ⟨secondPairs⟩
  simp only [DistinctKeys, keys, find?, mk.injEq] at distinct sameKeys sameValues ⊢
  refine List.ext_getElem (by simpa using congrArg List.length sameKeys) ?_
  intro index inFirst inSecond
  have keyEq : firstPairs[index].1 = secondPairs[index].1 := by
    have keyAt := congrArg (fun keys => keys[index]?) sameKeys
    simpa [inFirst, inSecond] using keyAt
  have fromFirst : findIn firstPairs[index].1 firstPairs = some firstPairs[index].2 :=
    findIn_eq_some_of_mem distinct (List.getElem_mem inFirst)
  have fromSecond : findIn secondPairs[index].1 secondPairs = some secondPairs[index].2 :=
    findIn_eq_some_of_mem (sameKeys ▸ distinct) (List.getElem_mem inSecond)
  rw [sameValues, keyEq, fromSecond] at fromFirst
  exact Prod.ext keyEq (Option.some.inj fromFirst).symm

/-! ### A run of insertions -/

/-- Inserts the pairs of a list one after the other. -/
def insertAll (table : Assoc K V) (pairs : List (K × V)) : Assoc K V :=
  pairs.foldl (fun table pair => table.insert pair.1 pair.2) table

theorem ofList_eq_insertAll (pairs : List (K × V)) : ofList pairs = empty.insertAll pairs := rfl

theorem ofList_append_singleton (pairs : List (K × V)) (key : K) (value : V) :
    ofList (pairs ++ [(key, value)]) = (ofList pairs).insert key value := by
  simp [ofList]

theorem DistinctKeys.insertAll {table : Assoc K V} (distinct : table.DistinctKeys)
    (pairs : List (K × V)) : (table.insertAll pairs).DistinctKeys := by
  induction pairs generalizing table with
  | nil => exact distinct
  | cons pair rest inductionHypothesis =>
      exact inductionHypothesis (distinct.insert pair.1 pair.2)

theorem distinctKeys_ofList (pairs : List (K × V)) : (ofList pairs).DistinctKeys :=
  DistinctKeys.empty.insertAll pairs

/-- The last value given for a key is found. -/
theorem find?_insertAll (table : Assoc K V) (pairs : List (K × V)) (key : K) :
    (table.insertAll pairs).find? key = (findIn key pairs.reverse).or (table.find? key) := by
  induction pairs generalizing table with
  | nil => simp [insertAll, findIn]
  | cons pair rest inductionHypothesis =>
      rw [insertAll, List.foldl_cons, ← insertAll, inductionHypothesis, List.reverse_cons,
        findIn_append, find?_insert, Option.or_assoc]
      by_cases same : pair.1 = key <;> simp [findIn, same]

theorem find?_ofList (pairs : List (K × V)) (key : K) :
    (ofList pairs).find? key = findIn key pairs.reverse := by
  rw [ofList_eq_insertAll, find?_insertAll, find?_empty, Option.or_none]

theorem eraseDups_append_singleton (list : List K) (last : K) :
    (list ++ [last]).eraseDups =
      if last ∈ list then list.eraseDups else list.eraseDups ++ [last] := by
  rw [List.eraseDups_append]
  by_cases present : last ∈ list
  · simp [present, List.removeAll]
  · simp [present, List.removeAll, List.eraseDups_cons]

/-- Keys stand in the order of their first insertion. -/
theorem keys_ofList (pairs : List (K × V)) :
    (ofList pairs).keys = (pairs.map Prod.fst).eraseDups := by
  induction pairs using List.reverseRecOn with
  | nil => rfl
  | append_singleton pairs pair inductionHypothesis =>
      rw [ofList_append_singleton, keys_insert, inductionHypothesis, List.map_append,
        List.map_singleton, eraseDups_append_singleton]
      simp only [List.mem_eraseDups]

/-- Pairs with distinct keys make a table that holds just these pairs. -/
theorem entries_ofList_of_nodup {pairs : List (K × V)}
    (distinct : (pairs.map Prod.fst).Nodup) : (ofList pairs).entries = pairs := by
  induction pairs using List.reverseRecOn with
  | nil => rfl
  | append_singleton pairs pair inductionHypothesis =>
      rw [List.map_append, List.nodup_append] at distinct
      have missing : pair.1 ∉ (ofList pairs).keys := by
        intro present
        rw [keys, inductionHypothesis distinct.1] at present
        exact distinct.2.2 pair.1 present pair.1 (by simp) rfl
      rw [ofList_append_singleton, entries_insert_of_not_mem _ missing,
        inductionHypothesis distinct.1]

/-! ### Merged lists -/

/-- `merged` has every key of `pairs` once: in the order in which the keys first
come, and with the last value given for each. -/
structure Merges (pairs merged : List (K × V)) : Prop where
  keys_eq : merged.map Prod.fst = (pairs.map Prod.fst).eraseDups
  last_value : ∀ {key : K} {value : V}, (key, value) ∈ merged →
    ∃ before after, pairs = before ++ (key, value) :: after ∧ key ∉ after.map Prod.fst

/-- The last pair with a key is what a search from the end finds. -/
theorem findIn_reverse_eq_some_iff {key : K} {value : V} {pairs : List (K × V)} :
    findIn key pairs.reverse = some value ↔
      ∃ before after, pairs = before ++ (key, value) :: after ∧ key ∉ after.map Prod.fst := by
  constructor
  · intro found
    induction pairs using List.reverseRecOn with
    | nil => simp [findIn] at found
    | append_singleton pairs pair inductionHypothesis =>
        rcases pair with ⟨other, held⟩
        by_cases same : other = key
        · subst same
          have valueEq : held = value := by simpa [findIn] using found
          exact ⟨pairs, [], by simp [valueEq], by simp⟩
        · have earlier : findIn key pairs.reverse = some value := by
            simpa [findIn, same] using found
          rcases inductionHypothesis earlier with ⟨before, after, rfl, last⟩
          refine ⟨before, after ++ [(other, held)], by simp, ?_⟩
          simpa [Ne.symm same] using last
  · rintro ⟨before, after, rfl, last⟩
    have missing : findIn key after.reverse = none := by
      rw [findIn_eq_none_iff, List.map_reverse, List.mem_reverse]
      exact last
    simp [findIn_append, findIn, missing]

/-- The pairs of a list are merged into the entries of its table. -/
theorem merges_ofList (pairs : List (K × V)) : Merges pairs (ofList pairs).entries where
  keys_eq := keys_ofList pairs
  last_value := by
    intro key value member
    rw [← findIn_reverse_eq_some_iff, ← find?_ofList]
    exact (find?_eq_some_iff (distinctKeys_ofList pairs)).mpr member

/-- Pairs with distinct keys are merged already. -/
theorem merges_self {pairs : List (K × V)} (distinct : (pairs.map Prod.fst).Nodup) :
    Merges pairs pairs := by
  have merged := merges_ofList pairs
  rw [entries_ofList_of_nodup distinct] at merged
  exact merged

theorem Merges.nodup_keys {pairs merged : List (K × V)} (merges : Merges pairs merged) :
    (merged.map Prod.fst).Nodup := by
  rw [merges.keys_eq, ← keys_ofList]
  exact distinctKeys_ofList pairs

/-- There is only one way to merge a list of pairs. -/
theorem Merges.entries_eq {pairs merged : List (K × V)} (merges : Merges pairs merged) :
    merged = (ofList pairs).entries := by
  have sameKeys : (⟨merged⟩ : Assoc K V).keys = (ofList pairs).keys := by
    rw [keys_ofList]
    exact merges.keys_eq
  have distinct : (⟨merged⟩ : Assoc K V).DistinctKeys := merges.nodup_keys
  refine congrArg entries (distinct.ext sameKeys ?_)
  intro key
  cases found : (⟨merged⟩ : Assoc K V).find? key with
  | some value =>
      rw [find?_ofList]
      exact (findIn_reverse_eq_some_iff.mpr
        (merges.last_value ((find?_eq_some_iff distinct).mp found))).symm
  | none =>
      rw [find?_eq_none_iff, sameKeys, ← find?_eq_none_iff] at found
      exact found.symm

/-- There is nothing to merge among pairs with distinct keys. -/
theorem Merges.eq_of_nodup {pairs merged : List (K × V)} (merges : Merges pairs merged)
    (distinct : (pairs.map Prod.fst).Nodup) : merged = pairs := by
  rw [merges.entries_eq, entries_ofList_of_nodup distinct]

/-- The merged pairs are those that come last with their keys. -/
theorem Merges.mem_iff {pairs merged : List (K × V)} (merges : Merges pairs merged) {key : K}
    {value : V} :
    (key, value) ∈ merged ↔
      ∃ before after, pairs = before ++ (key, value) :: after ∧ key ∉ after.map Prod.fst := by
  rw [← findIn_reverse_eq_some_iff, ← find?_ofList,
    find?_eq_some_iff (distinctKeys_ofList pairs), merges.entries_eq]

/-- Merging adds no pair. -/
theorem Merges.mem {pairs merged : List (K × V)} (merges : Merges pairs merged) {pair : K × V}
    (member : pair ∈ merged) : pair ∈ pairs := by
  obtain ⟨before, after, rfl, _⟩ := merges.last_value member
  exact List.mem_append_right _ List.mem_cons_self

end CardCodex.Assoc
