/-
Module: CardCodex.Proofs.Equality
Purpose: Equality of databases compares their cards and leaves out their slots.  For the
  databases that can come about it is nevertheless all that can be observed: equal ones are
  written alike, answer alike, and stay equal under the same insertions.
Main exports: Database.beq_iff_cards_eq, Database.Indexed.eq_of_beq,
  Database.WellFormed.eq_of_written, Database.Indistinguishable,
  Database.Reachable.beq_observational
-/
import CardCodex.Proofs.Reachable

namespace CardCodex.Database

theorem beq_iff_cards_eq {first second : Database} :
    (first == second) = true ↔ first.cards = second.cards := by
  change (first.cards == second.cards) = true ↔ _
  exact beq_iff_eq

theorem beq_self (database : Database) : (database == database) = true :=
  beq_iff_cards_eq.mpr rfl

/-- The slots follow from the cards, so that equal databases agree in them too. -/
theorem Indexed.eq_of_beq {first second : Database} (indexedFirst : first.Indexed)
    (indexedSecond : second.Indexed) (equal : (first == second) = true) : first = second :=
  indexedFirst.ext indexedSecond (beq_iff_cards_eq.mp equal)

/-- A text is the document of only one database. -/
theorem WellFormed.eq_of_written {first second : Database} {text : String}
    (formedFirst : first.WellFormed) (formedSecond : second.WellFormed)
    (wroteFirst : first.written = .ok text) (wroteSecond : second.written = .ok text) :
    first = second := by
  rcases formedFirst.exists_text with ⟨firstText, wrote, readsFirst⟩
  obtain rfl : firstText = text := Except.ok.inj (wrote.symm.trans wroteFirst)
  rcases formedSecond.exists_text with ⟨secondText, wrote, readsSecond⟩
  obtain rfl : secondText = firstText := Except.ok.inj (wrote.symm.trans wroteSecond)
  -- One text has one reading.
  have sameReading := (parse_eq_of_reads readsFirst).symm.trans (parse_eq_of_reads readsSecond)
  exact Except.ok.inj sameReading

/-- What holds of two databases that no operation tells apart. -/
structure Indistinguishable (first second : Database) : Prop where
  find?_eq : ∀ id, first.find? id = second.find? id
  size_eq : first.size = second.size
  isEmpty_eq : first.isEmpty = second.isEmpty
  /-- The same insertions leave them equal. -/
  insertions_beq : ∀ cards : List Card,
    (cards.foldl insert first == cards.foldl insert second) = true

theorem Indistinguishable.refl (database : Database) :
    database.Indistinguishable database where
  find?_eq := fun _ => rfl
  size_eq := rfl
  isEmpty_eq := rfl
  insertions_beq := fun cards => beq_self (cards.foldl insert database)

/-- Whatever their histories are, two databases are equal when their documents are the same
text, and equal ones are not told apart by what is found in them or inserted into them. -/
theorem Reachable.beq_observational {first second : Database} (reachableFirst : first.Reachable)
    (reachableSecond : second.Reachable) :
    ((first == second) = true ↔
        ∃ text, first.written = .ok text ∧ second.written = .ok text) ∧
      ((first == second) = true → first.Indistinguishable second) := by
  have formedFirst := reachableFirst.wellFormed
  have formedSecond := reachableSecond.wellFormed
  have same : (first == second) = true → first = second :=
    formedFirst.indexed.eq_of_beq formedSecond.indexed
  refine ⟨⟨?_, ?_⟩, ?_⟩
  · intro equal
    obtain rfl := same equal
    rcases formedFirst.exists_text with ⟨text, wrote, _⟩
    exact ⟨text, wrote, wrote⟩
  · rintro ⟨text, wroteFirst, wroteSecond⟩
    obtain rfl := formedFirst.eq_of_written formedSecond wroteFirst wroteSecond
    exact beq_self first
  · intro equal
    obtain rfl := same equal
    exact .refl first

/-- The cards of `scouts`, each inserted once. -/
def scoutsOnce : Database :=
  (empty.insert .scout).insert (.blank "\\😀")

theorem scouts_beq_observational :
    scouts.Reachable ∧ scoutsOnce.Reachable ∧ (scouts == scoutsOnce) = true ∧
      ((scouts == scoutsOnce) = true ↔
        ∃ text, scouts.written = .ok text ∧ scoutsOnce.written = .ok text) ∧
      ((scouts == scoutsOnce) = true → scouts.Indistinguishable scoutsOnce) := by
  have scout : Card.scout.Reachable := Card.scout_reachable
  have reachable : scouts.Reachable :=
    ((Reachable.empty.insert (.blank "Scout")).insert (.blank "\\😀")).insert scout
  have reachableOnce : scoutsOnce.Reachable :=
    (Reachable.empty.insert scout).insert (.blank "\\😀")
  have equal : (scouts == scoutsOnce) = true := by decide
  exact ⟨reachable, reachableOnce, equal, Reachable.beq_observational reachable reachableOnce⟩

end CardCodex.Database
