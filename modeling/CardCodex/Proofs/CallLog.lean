/-
Module: CardCodex.Proofs.CallLog
Purpose: A card is the log of the calls that set its tags: each successful call counts in the
  place of its tag's first one and with the value of the last one, and a failed call leaves
  no trace.
Main exports: Card.perform, Card.run_perform, Card.successes, TagValue.storedForm,
  Card.IsLog, Card.perform_isLog
-/
import CardCodex.Proofs.Typing

namespace CardCodex

/-! ### The form in which values are held -/

namespace TagValue

/-- The form in which a tag holds a value that fits it: the integer of an item becomes
the item, and all else stays as it is. -/
def storedForm (tag : GameTag) (offered : TagValue) : TagValue :=
  match tag.kind, offered with
  | .item id, .int value => .item id value
  | _, _ => offered

theorem declaredItem_eq_ok {id : EnumId} {number : Int32} {value : TagValue}
    (accepted : declaredItem id number = .ok value) : value = .item id number := by
  unfold declaredItem at accepted
  split at accepted
  · exact (Except.ok.inj accepted).symm
  · cases accepted

theorem eq_storedForm_of_fit {tag : GameTag} {offered value : TagValue}
    (accepted : fit tag offered = .ok value) : value = storedForm tag offered := by
  unfold fit at accepted
  unfold storedForm
  split at accepted
  · next id number isItem =>
      rw [isItem]
      exact declaredItem_eq_ok accepted
  · next id found number isItem =>
      rw [isItem]
      split at accepted
      · next same =>
          subst same
          exact declaredItem_eq_ok accepted
      · cases accepted
  · cases accepted
  · next category content isScalar =>
      rw [isScalar]
      split at accepted
      · exact (Except.ok.inj accepted).symm
      · cases accepted
  · next category number isScalar =>
      rw [isScalar]
      split at accepted
      · cases accepted
      · exact (Except.ok.inj accepted).symm
  · cases accepted

/-- A value that fits a tag is held as it is. -/
theorem Fits.fit_eq {tag : GameTag} {value : TagValue} (fitting : Fits tag value) :
    fit tag value = .ok value := by
  cases fitting with
  | item item isItem => simp [fit, isItem, declaredItem]
  | text isText => simp [fit, isText]
  | int isNumber notText => simp [fit, isNumber, notText]

end TagValue

namespace Card

/-! ### Runs of calls -/

/-- Makes calls that set a tag, one after the other and each on the card that the ones
before it leave, and gives their answers. -/
def perform (calls : List (GameTag × TagValue)) : StateM Card (List (Except CardError Unit)) :=
  calls.mapM fun call => (assign call.1 call.2).run

/-- What the card `id` answers to a call. -/
def answer (id : String) (call : GameTag × TagValue) : Except CardError Unit :=
  ((blank id).checked call.1 call.2).map fun _ => ()

/-- One call: its answer hangs on the id of the card alone, and a failure changes nothing. -/
theorem run_assign_eq (card : Card) (call : GameTag × TagValue) :
    (assign call.1 call.2).run.run card =
      (answer card.id call, card.attempt call.1 call.2) := by
  rw [attempt, run_assign, answer, checked, blank]
  cases TagValue.fit call.1 call.2 <;> rfl

theorem id_attempt (card : Card) (tag : GameTag) (offered : TagValue) :
    (card.attempt tag offered).id = card.id := by
  rw [attempt, run_assign]
  cases TagValue.fit tag offered <;> rfl

theorem run_perform_cons (call : GameTag × TagValue) (rest : List (GameTag × TagValue))
    (card : Card) :
    (perform (call :: rest)).run card =
      let first := (assign call.1 call.2).run.run card
      let others := (perform rest).run first.2
      (first.1 :: others.1, others.2) := by
  rw [perform, List.mapM_cons]
  rfl

/-- A run of calls: each is answered as if it were the only one, and the card goes from
one attempt to the next. -/
theorem run_perform (calls : List (GameTag × TagValue)) (card : Card) :
    (perform calls).run card =
      (calls.map (answer card.id),
        calls.foldl (fun card call => card.attempt call.1 call.2) card) := by
  induction calls generalizing card with
  | nil => rfl
  | cons call rest inductionHypothesis =>
      rw [run_perform_cons, run_assign_eq]
      dsimp only
      rw [inductionHypothesis, id_attempt]
      rfl

/-! ### What a run leaves -/

/-- The calls that were answered with success. -/
def successes (calls : List (GameTag × TagValue)) (answers : List (Except CardError Unit)) :
    List (GameTag × TagValue) :=
  ((calls.zip answers).filter fun pair => pair.2.isOk).map Prod.fst

theorem successes_map (calls : List (GameTag × TagValue))
    (reply : GameTag × TagValue → Except CardError Unit) :
    successes calls (calls.map reply) = calls.filter fun call => (reply call).isOk := by
  induction calls with
  | nil => rfl
  | cons call rest inductionHypothesis =>
      rw [successes] at inductionHypothesis ⊢
      cases succeeded : (reply call).isOk <;> simp [succeeded, inductionHypothesis]

/-- A call with the value in the form in which it is held. -/
def storedCall (call : GameTag × TagValue) : GameTag × TagValue :=
  (call.1, TagValue.storedForm call.1 call.2)

/-- A call changes a card when it is answered with success. -/
theorem attempt_eq (card : Card) (call : GameTag × TagValue) :
    card.attempt call.1 call.2 =
      if (answer card.id call).isOk then card.withEntry (storedCall call) else card := by
  rw [attempt, run_assign, answer, checked, blank]
  cases fitted : TagValue.fit call.1 call.2 with
  | error fault => rfl
  | ok value =>
      obtain rfl := TagValue.eq_storedForm_of_fit fitted
      rfl

/-- A run of calls holds the values of the successful ones, in turn. -/
theorem foldl_attempt (calls : List (GameTag × TagValue)) (card : Card) :
    calls.foldl (fun card call => card.attempt call.1 call.2) card =
      { card with
        tags := card.tags.insertAll
          ((calls.filter fun call => (answer card.id call).isOk).map storedCall) } := by
  induction calls generalizing card with
  | nil => rfl
  | cons call rest inductionHypothesis =>
      rw [List.foldl_cons, inductionHypothesis, id_attempt, attempt_eq]
      cases succeeded : (answer card.id call).isOk <;>
        simp [succeeded, withEntry, Assoc.insertAll, storedCall]

theorem map_fst_storedCall (calls : List (GameTag × TagValue)) :
    (calls.map storedCall).map Prod.fst = calls.map Prod.fst := by
  rw [List.map_map]
  rfl

/-- The last value held for a tag is the stored form of the last one offered for it. -/
theorem findIn_reverse_storedCalls {calls : List (GameTag × TagValue)} {tag : GameTag}
    {value : TagValue} :
    Assoc.findIn tag (calls.map storedCall).reverse = some value ↔
      ∃ before offered after, calls = before ++ (tag, offered) :: after ∧
        tag ∉ after.map Prod.fst ∧ value = TagValue.storedForm tag offered := by
  rw [Assoc.findIn_reverse_eq_some_iff]
  constructor
  · rintro ⟨before, after, split, last⟩
    rcases List.map_eq_append_iff.mp split with ⟨front, tail, callsEq, rfl, tailEq⟩
    rcases List.map_eq_cons_iff.mp tailEq with ⟨⟨other, offered⟩, rest, rfl, storedEq, rfl⟩
    rcases Prod.mk.inj storedEq with ⟨rfl, rfl⟩
    rw [map_fst_storedCall] at last
    exact ⟨front, offered, rest, callsEq, last, rfl⟩
  · rintro ⟨before, offered, after, rfl, last, rfl⟩
    refine ⟨before.map storedCall, after.map storedCall, ?_, ?_⟩
    · rw [List.map_append, List.map_cons]
      rfl
    · rw [map_fst_storedCall]
      exact last

/-- The values of successful calls, inserted one after the other. -/
def ofCalls (id : String) (calls : List (GameTag × TagValue)) : Card :=
  ⟨id, .ofList (calls.map storedCall)⟩

theorem run_perform_blank (id : String) (calls : List (GameTag × TagValue)) :
    (perform calls).run (blank id) =
      (calls.map (answer id), ofCalls id (calls.filter fun call => (answer id call).isOk)) := by
  rw [run_perform, foldl_attempt]
  rfl

theorem WellTyped.foldl_attempt {card : Card} (typed : card.WellTyped)
    (calls : List (GameTag × TagValue)) :
    (calls.foldl (fun card call => card.attempt call.1 call.2) card).WellTyped := by
  induction calls generalizing card with
  | nil => exact typed
  | cons call rest inductionHypothesis =>
      exact inductionHypothesis (typed.attempt call.1 call.2)

theorem wellTyped_of_run_perform {id : String} {calls : List (GameTag × TagValue)}
    {answers : List (Except CardError Unit)} {card : Card}
    (ran : (perform calls).run (blank id) = (answers, card)) : card.WellTyped := by
  rw [run_perform] at ran
  obtain rfl := (Prod.mk.inj ran).2
  exact (WellTyped.blank id).foldl_attempt calls

/-- Calls that succeed on a card succeed again when they are all that is done. -/
theorem run_perform_filter (id : String) (calls : List (GameTag × TagValue)) :
    (perform (calls.filter fun call => (answer id call).isOk)).run (blank id) =
      ((calls.filter fun call => (answer id call).isOk).map fun _ => .ok (),
        ofCalls id (calls.filter fun call => (answer id call).isOk)) := by
  rw [run_perform_blank, List.filter_filter]
  simp only [Bool.and_self]
  refine Prod.ext (List.map_congr_left ?_) rfl
  intro call member
  have succeeded := (List.mem_filter.mp member).2
  cases replied : answer id call with
  | ok _ => rfl
  | error error => simp [replied, Except.isOk, Except.toBool] at succeeded

theorem eq_of_run_assign_eq_error {card after : Card} {tag : GameTag} {offered : TagValue}
    {error : CardError} (failed : (assign tag offered).run.run card = (.error error, after)) :
    after = card := by
  rw [run_assign] at failed
  split at failed
  · cases failed
  · exact (Prod.mk.inj failed).2.symm

/-- A value that a well typed card holds can be set again to no effect. -/
theorem WellTyped.run_assign_held {card : Card} (typed : card.WellTyped)
    {entry : GameTag × TagValue} (member : entry ∈ card.tags.entries) :
    (assign entry.1 entry.2).run.run card = (.ok (), card) := by
  have held : card.tags.find? entry.1 = some entry.2 :=
    (Assoc.find?_eq_some_iff typed.tags_distinct).mpr member
  rw [run_assign, (typed.fits entry member).fit_eq]
  dsimp only
  rw [Assoc.insert_eq_self held]

/-- What the card `id` shows after calls that had these answers. -/
structure IsLog (id : String) (calls : List (GameTag × TagValue))
    (answers : List (Except CardError Unit)) (card : Card) : Prop where
  id_eq : card.id = id
  /-- Each tag that was set stands once, in the place of its first successful call. -/
  keys_nodup : card.tags.keys.Nodup
  keys_eq : card.tags.keys = ((successes calls answers).map Prod.fst).eraseDups
  /-- Each tag holds the value of its last successful call, in its stored form. -/
  get?_eq_some_iff : ∀ tag value, card.get? tag = some value ↔
    ∃ before offered after, successes calls answers = before ++ (tag, offered) :: after ∧
      tag ∉ after.map Prod.fst ∧ value = TagValue.storedForm tag offered
  get?_eq_none_iff : ∀ tag,
    card.get? tag = none ↔ tag ∉ (successes calls answers).map Prod.fst
  get?_of_mem : ∀ entry ∈ card.tags.entries, card.get? entry.1 = some entry.2
  /-- Each call has the answer that it would have as the first one. -/
  answers_eq : answers = calls.map fun call => ((assign call.1 call.2).run.run (blank id)).1
  /-- Without its failed calls the run succeeds throughout and leaves the same card. -/
  run_successes : (perform (successes calls answers)).run (blank id) =
    ((successes calls answers).map fun _ => .ok (), card)
  /-- A further call that fails leaves the card as it is. -/
  failed_call : ∀ tag offered error after,
    (assign tag offered).run.run card = (.error error, after) → after = card
  /-- Setting a tag to the value that it holds succeeds and leaves the card as it is. -/
  repeated_call : ∀ entry ∈ card.tags.entries,
    (assign entry.1 entry.2).run.run card = (.ok (), card)

/-- A card is exactly the log of the successful calls that were made on it. -/
theorem perform_isLog (id : String) (calls : List (GameTag × TagValue)) :
    ∃ answers card, (perform calls).run (blank id) = (answers, card) ∧
      IsLog id calls answers card := by
  have ran := run_perform_blank id calls
  have typed := wellTyped_of_run_perform ran
  have succeeded := successes_map calls (answer id)
  have keys : (ofCalls id (calls.filter fun call => (answer id call).isOk)).tags.keys =
      ((successes calls (calls.map (answer id))).map Prod.fst).eraseDups := by
    rw [ofCalls, Assoc.keys_ofList, map_fst_storedCall, succeeded]
  refine ⟨_, _, ran, ?_⟩
  refine
    { id_eq := rfl
      keys_nodup := typed.tags_distinct
      keys_eq := keys
      get?_eq_some_iff := ?_
      get?_eq_none_iff := ?_
      get?_of_mem := fun entry member =>
        (Assoc.find?_eq_some_iff typed.tags_distinct).mpr member
      answers_eq := ?_
      run_successes := ?_
      failed_call := fun _ _ _ _ failed => eq_of_run_assign_eq_error failed
      repeated_call := fun _ member => typed.run_assign_held member }
  · intro tag value
    rw [get?, ofCalls, Assoc.find?_ofList, findIn_reverse_storedCalls, succeeded]
  · intro tag
    rw [get?, Assoc.find?_eq_none_iff, keys, List.mem_eraseDups]
  · apply List.map_congr_left
    intro call _
    rw [run_assign_eq, blank]
  · rw [succeeded]
    exact run_perform_filter id calls

end Card

end CardCodex
