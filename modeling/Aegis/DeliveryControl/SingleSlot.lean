/-
# DeliveryControl.SingleSlot — one operation at a time

The outstanding slot is the mutual exclusion of the control plane. What a commit
requires of it and leaves in it, and which transactions empty it:

* `commitIntent_takes`: a first intent finds the slot empty, a retry finds it held
  by the prior attempt and consumes the one authorization that names it;
* `Transacts.frees`: a transaction that empties the slot closes its occupant;
* `single_outstanding_slot`: the two over every run of the store.
-/
import Aegis.DeliveryControl.StoreSystem

namespace Aegis.DeliveryControl

open Aegis.Lib
open Aegis.Lib.Guarded
open Aegis.Lib.Runs

set_option autoImplicit false

/-- The row with one attempt's authorization consumed by an event. -/
def RetryAuthorization.consumedBy (authorization : RetryAuthorization) (eventId : String) :
    RetryAuthorization :=
  { authorization with
    status := .consumed
    consumingEventId := some eventId }

/-- A first intent: the slot was empty, and the attempt holds it under generation 1. -/
structure FirstCommit (before after : Store) (intent : OperationIntent) : Prop where
  first : intent.retry = none
  empty : before.slot.rows = []
  taken : after.slot.rows = [intent.slotRow]
  generation : intent.slotRow.generation = 1
  authorizations : after.authorizations = before.authorizations

/-- A retry: the prior attempt that an available authorization names held the slot,
the successor holds it under the next generation, and that authorization is consumed. -/
structure RetryCommit (before after : Store) (intent : OperationIntent)
    (authorization : RetryAuthorization) (slot : SlotRow) : Prop where
  again : intent.retry.isSome = true
  member : authorization ∈ before.authorizations
  available : authorization.status = .available
  successor : authorization.successorAttemptId = intent.request.attemptId
  held : before.slot.rows = [slot]
  names : authorization.scope.repositoryId = slot.repositoryId ∧
    authorization.scope.runId = slot.runId ∧
    authorization.scope.logicalEffectId = slot.logicalEffectId ∧
    authorization.scope.attemptId = slot.attemptId ∧
    authorization.sourceGeneration = slot.generation
  taken : after.slot.rows = [intent.slotRow]
  operation : intent.slotRow.repositoryId = slot.repositoryId ∧
    intent.slotRow.runId = slot.runId ∧ intent.slotRow.logicalEffectId = slot.logicalEffectId
  generation : intent.slotRow.generation = slot.generation + 1
  consumed : after.authorizations.rows = before.authorizations.rows.map (fun row =>
    if row = authorization then authorization.consumedBy intent.request.eventId else row)

section Commit

variable {digests : StoreDigests} {repositoryId : String} {checks : Checks} {before after : Store}

/-- A recovered intent consumes its authorization and no other. -/
theorem intentConsumes_rows {intent : OperationIntent} {retry : RetryBinding}
    {authorization : RetryAuthorization} (again : intent.retry = some retry)
    (member : authorization ∈ before.authorizations) (kind : authorization.kind = retry.kind)
    (named : authorization.authorizationId = retry.recoveryAuthorizationId)
    (available : authorization.status = .available) :
    (intentConsumes before intent).rows = before.authorizations.rows.map (fun row =>
      if row = authorization then authorization.consumedBy intent.request.eventId else row) := by
  simp only [intentConsumes, again, Table.update]
  refine List.map_congr_left (fun row stored => ?_)
  by_cases same : row = authorization
  · subst same
    simp [kind, named, available, RetryAuthorization.consumedBy]
  · rw [if_neg same, if_neg]
    intro meets
    simp only [Bool.and_eq_true, decide_eq_true_eq] at meets
    exact same (Table.eq_of_conflict stored member
      ⟨meets.1.1.trans kind.symm, .inl (meets.1.2.trans named.symm)⟩)

/-- A validated retry advances the generation by one. -/
theorem RetryBinding.validate_ok {retry : RetryBinding} {attemptId : String} {done : Unit}
    (valid : retry.validate attemptId = .ok done) :
    retry.expectedTargetGeneration = retry.expectedSourceGeneration + 1 := by
  simp only [RetryBinding.validate, bind_eq_ok, require_eq_ok] at valid
  obtain ⟨_, -, _, -, -, advances⟩ := valid
  exact advances

/-- **What a commit finds in the slot and leaves in it**; a repeated command only
repeats its receipt. -/
theorem commitIntent_takes {intent : OperationIntent} {capability : SyntheticCapability}
    {receipt : CommitReceipt}
    (committed : commitIntent digests repositoryId checks intent capability before =
      .ok (receipt, after)) :
    ((before.outcome? intent.request.commandId).isSome = true ∧ receipt.replayed = true ∧
        after = before) ∨
      (receipt.replayed = false ∧ (FirstCommit before after intent ∨
        ∃ authorization slot, RetryCommit before after intent authorization slot)) := by
  simp only [commitIntent, bind_eq_ok, require_eq_ok] at committed
  obtain ⟨_, valid, _, -, _, -, _, -, committed⟩ := committed
  split at committed
  · rename_i prior found
    simp only [bind_eq_ok, pure_eq_ok, Prod.mk.injEq, commitReplay] at committed
    obtain ⟨_, ⟨_, -, _, -, _, -, _, -, rfl⟩, rfl, rfl⟩ := committed
    exact .inl ⟨by rw [found]; rfl, rfl, rfl⟩
  · simp only [bind_eq_ok, pure_eq_ok, Prod.mk.injEq, Prod.exists, writeIntent,
      Store.append_eq_ok, Store.recordOutcome_eq_ok] at committed
    obtain ⟨run, effects, checked, _, ⟨uses, -, reservation, -, reservations, -, origins, -, slot,
      takes, redemptions, -, _, ⟨events, -, rfl⟩, outcomes, -, rfl⟩, rfl, rfl⟩ := committed
    refine .inr ⟨rfl, ?_⟩
    obtain ⟨-, -, -, ⟨authorization, checkedSlot, -⟩, -⟩ := checkIntent_ok checked
    obtain ⟨taken, held⟩ := intentTakesSlot_ok checkedSlot takes
    obtain ⟨first, empty⟩ | ⟨retry, slot, again, rows, -⟩ := held
    · refine .inl ⟨first, empty, taken, ?_, ?_⟩
      · simp [OperationIntent.slotRow, OperationIntent.slotGeneration, first]
      · simp [intentConsumes, first]
    · simp only [intentSlot, again, map_eq_ok] at checkedSlot
      obtain ⟨authorization, authorized, -⟩ := checkedSlot
      obtain ⟨member, kind, named, scope, successor, source, -, available, held, lookup, ofRun,
        effect, prior, generation⟩ := retryAuthorization_ok authorized
      obtain ⟨heldMember, repository⟩ := mem_of_slot? lookup
      obtain rfl : slot = held := by simpa [rows] using slot_rows_of_mem heldMember
      simp only [OperationIntent.validate, again, bind_eq_ok] at valid
      obtain ⟨_, -, valid⟩ := valid
      have advances := RetryBinding.validate_ok valid
      refine .inr ⟨authorization, slot, ⟨by rw [again]; rfl, member, available, successor, rows,
        ⟨?_, ?_, ?_, ?_, source.trans generation.symm⟩, taken,
        ⟨repository.symm, ofRun.symm, effect.symm⟩, ?_,
        intentConsumes_rows again member kind named available⟩⟩
      · rw [scope]
        exact repository.symm
      · rw [scope]
        exact ofRun.symm
      · rw [scope]
        exact effect.symm
      · rw [scope]
        exact prior.symm
      · simp [OperationIntent.slotRow, OperationIntent.slotGeneration, again, advances, generation]

end Commit

/-! ## Emptying the slot -/

/-- The event finalizes the operation in the slot, or settles or observes it on a
route that releases the slot. -/
def EventBody.Frees (body : EventBody) (slot : SlotRow) : Prop :=
  body.runId = slot.runId ∧ ∃ release, body.detail.releases = some release ∧ slot.Named release

/-- Nothing is held for the operation in the slot. -/
def SlotRow.Unheld (slot : SlotRow) (store : Store) : Prop :=
  ∀ reservation ∈ store.reservations, reservation.scope.repositoryId = slot.repositoryId →
    reservation.scope.runId = slot.runId →
    reservation.scope.logicalEffectId = slot.logicalEffectId →
    reservation.scope.attemptId = slot.attemptId → reservation.heldUnits = 0

section Frees

variable {digests : StoreDigests} {repositoryId : String} {before after : Store}

/-- A plain event holds nothing new. -/
theorem SlotRow.Unheld.of_plain {slot : SlotRow} {body : EventBody}
    (moved : Move digests repositoryId before body after) (plain : body.Plain)
    (unheld : slot.Unheld before) : slot.Unheld after := by
  cases moved.accounts with
  | quiet reservations settlements fences =>
      simp only [SlotRow.Unheld, reservations]
      exact unheld
  | reserved reservation unsettled detail unfenced reservations settlements fences =>
      simp [EventBody.Plain, EventDetail.plain, detail] at plain
  | settled reservation row settles detail hash settlements reservations fences =>
      intro other member repository ofRun effect attempt
      rw [← Table.mem_rows, reservations, List.mem_map] at member
      obtain ⟨old, oldMember, rfl⟩ := member
      split
      · exact settles.unheld
      · rename_i kept
        rw [if_neg kept] at repository ofRun effect attempt
        exact unheld old oldMember repository ofRun effect attempt

theorem SlotRow.Unheld.of_moves {slot : SlotRow} {bodies : List EventBody}
    (unheld : slot.Unheld before) (moved : Moves digests repositoryId before bodies after)
    (plain : ∀ body ∈ bodies, body.Plain) : slot.Unheld after := by
  induction moved with
  | nil => exact unheld
  | snoc earlier taken ih =>
      exact .of_plain taken (plain _ (by simp)) (ih (fun body member => plain body (by simp [member])))

/-- **A transaction that empties the slot** records an event that frees its occupant,
and leaves nothing held for it. -/
theorem Transacts.frees {asks : EventBody → Prop} {slot : SlotRow}
    (transacts : Transacts digests repositoryId asks before after)
    (held : before.slot.rows = [slot]) (freed : after.slot.rows = []) :
    ∃ body, Store.eventRow digests body ∈ after.events ∧
      Store.eventRow digests body ∉ before.events ∧ body.Frees slot ∧ slot.Unheld after := by
  obtain ⟨bodies, moves, last, led⟩ := transacts
  obtain still | ⟨earlier, body, later, rfl, stillBefore, moves', stillAfter⟩ := SlotLast.split last
  · rw [Moves.slot_of_still moves still, held] at freed
    cases freed
  · obtain ⟨recorded, new⟩ := Moves.recorded_new moves (List.mem_append_right _ List.mem_cons_self)
    refine ⟨body, recorded, new, ?_⟩
    obtain ⟨first, beforeBody, rest⟩ := moves.split
    obtain ⟨second, taken, afterBody⟩ := rest.uncons
    have heldFirst : first.slot.rows = [slot] := by
      rw [Moves.slot_of_still beforeBody stillBefore, held]
    have freedSecond : second.slot.rows = [] := by
      rw [← Moves.slot_of_still afterBody (fun other member => (stillAfter other member).2), freed]
    have plain : ∀ other ∈ later, other.Plain := by
      intro other member
      cases earlier with
      | nil => exact led.2 other member
      | cons => exact led.2 other (List.mem_append_right _ (List.mem_cons_of_mem _ member))
    cases taken.slot with
    | quiet same => simp [same, heldFirst] at freedSecond
    | acquired intent claimId committed => simp [committed.taken] at freedSecond
    | transferred intent claimId retry other committed => simp [committed.taken] at freedSecond
    | adopted other ofRun origin detail empty taken => simp [taken] at freedSecond
    | released other release detail named ofRun heldOther freed closed =>
        obtain rfl : other = slot := by simpa [heldFirst] using heldOther.symm
        refine ⟨⟨ofRun.symm, release, detail, named⟩, ?_⟩
        have unheld : other.Unheld second := fun reservation member repository run effect attempt =>
          (closed reservation member repository run effect attempt).1
        exact unheld.of_moves afterBody plain

end Frees

/-! ## Every run -/

/-- The outstanding slot as a mutual exclusion, in one store. -/
structure SlotDiscipline (digests : StoreDigests) (repositoryId : String) (store : Store) :
    Prop where
  single : store.slot.rows.length ≤ 1
  commits : ∀ checks intent capability receipt after,
    commitIntent digests repositoryId checks intent capability store = .ok (receipt, after) →
      ((store.outcome? intent.request.commandId).isSome = true ∧ receipt.replayed = true ∧
        after = store) ∨
      (receipt.replayed = false ∧ (FirstCommit store after intent ∨
        ∃ authorization slot, RetryCommit store after intent authorization slot))
  empties : ∀ call slot, store.slot.rows = [slot] →
    (Call.step digests repositoryId store call).slot.rows = [] →
      ∃ body, Store.eventRow digests body ∈ (Call.step digests repositoryId store call).events ∧
        Store.eventRow digests body ∉ store.events ∧ body.Frees slot ∧
        slot.Unheld (Call.step digests repositoryId store call)

/-- **Single outstanding slot.** In every store that any sequence of calls reaches
there is at most one slot row; a new intent that is no retry finds it empty; a retry
finds it held by the prior attempt that an available authorization names, consumes
that authorization alone and hands the slot to its successor under the next
generation; and a call that empties it finalizes, settles or observes the operation
in it, with nothing held for that operation. -/
theorem single_outstanding_slot {digests : StoreDigests} {repositoryId : String}
    {calls : List Call} {store : Store} (_run : StoreRun digests repositoryId calls store) :
    SlotDiscipline digests repositoryId store := by
  refine ⟨?_, fun checks intent capability receipt after => commitIntent_takes, ?_⟩
  · cases rows : store.slot.rows with
    | nil => simp
    | cons slot rest =>
        have held : slot ∈ store.slot := by simp [← Table.mem_rows, rows]
        rw [← rows, slot_rows_of_mem held]
        simp
  · intro call slot held freed
    exact Transacts.frees (Call.transacts rfl) held freed

/-- A plan and its first intent. -/
def committedCommands : List Command :=
  [.acceptPlan samplePlan, .commitIntent (sampleIntent "1" 10 10 10 none) (sampleCapability "1")]

theorem sampleRun_holds_slot :
    (sampleStore committedCommands).slot.rows = [(sampleIntent "1" 10 10 10 none).slotRow] ∧
      SlotDiscipline sampleDigests "repo" (sampleStore committedCommands) :=
  ⟨by decide +kernel, single_outstanding_slot (sampleStore_reached committedCommands)⟩

end Aegis.DeliveryControl
