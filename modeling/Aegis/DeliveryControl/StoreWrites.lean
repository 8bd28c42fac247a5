/-
# DeliveryControl.StoreWrites — the writes that transactions are made of

Every operation of the store is a sequence of checks followed by these writes.
A write that breaks a uniqueness constraint raises, and a transaction that
raised is rolled back.

A check of the source that reads tables outside the model is a `Check`; a call
comes with the answers of all of them. `verifyProjections` is the check that
every operation starts with: the replay of the budget chains, and `projections`
for the rest of it.
-/
import Aegis.DeliveryControl.BudgetReplay

namespace Aegis.DeliveryControl

open Aegis.Lib
open Aegis.Lib.Guarded

set_option autoImplicit false

/-! ## Checks outside the model -/

/-- The checks that read what the model leaves out: projections of other tables,
the freshness oracle, issuers and MACs, plans, readiness, uncertainties. -/
inductive Check
  | projections
  | freshness
  | samePayload
  | issued
  | planIssuer
  | effectiveAuthority
  | acceptedPlan
  | forIntent
  | expectedHead
  | writerEpoch
  | readiness
  | retryProtection
  | activityUncertainty
  | effectGraph
  | evidence
  | seal
  | sealExecuted
  | validatorEvidence
  | checksSettled
  | nonexecutionRecorded
  | launchSnapshot
  | terminalEvidence
  | operatorAction
  | adoptionReadiness
  | finalization
  deriving DecidableEq, Repr

/-- The answers one call gets. -/
abbrev Checks := Check → Bool

def Checks.require (checks : Checks) (check : Check) (error : ControlError) :
    Except ControlError PUnit :=
  Guarded.require (checks check = true) error

@[simp] theorem Checks.require_eq_ok {checks : Checks} {check : Check} {error : ControlError}
    {done : PUnit} : checks.require check error = .ok done ↔ checks check = true :=
  Guarded.require_eq_ok

/-- `_verify_projections`. -/
def verifyProjections (checks : Checks) (store : Store) : Except ControlError Unit := do
  checks.require .projections
    (ControlError.storageIntegrityError "projection diverges from event history")
  verifyBudgetProjection store

/-- The checks every operation starts with. -/
def verifyStore (checks : Checks) (store : Store) : Except ControlError Unit := do
  verifyProjections checks store
  checks.require .freshness
    (ControlError.dispatchDenied "independent recovery freshness proof failed")

/-! ## Writes -/

def uniqueError (table : String) : ControlError :=
  .integrityError ("UNIQUE constraint failed: " ++ table)

/-- `UPDATE runs SET lifecycle_state, continuation_cursor, head_sequence, head_hash`. -/
def RunRow.advance (run : RunRow) (state : LifecycleState) (cursor : Option String)
    (event : EventRow) : RunRow :=
  { run with
    lifecycleState := state
    continuationCursor := cursor
    headSequence := event.body.sequence
    headHash := event.eventHash }

/-- The body of the next event of a run. -/
def RunRow.nextBody (run : RunRow) (eventId commandId : String)
    (lifecycle : Option LifecycleChange) (cursor : Option (Option String)) (detail : EventDetail) :
    EventBody where
  eventId := eventId
  commandId := commandId
  repositoryId := run.repositoryId
  runId := run.runId
  itemId := run.itemId
  sequence := run.headSequence + 1
  previousEventHash := run.headHash
  lifecycle := lifecycle
  continuationCursor := cursor
  detail := detail

/-- The change from the run's state to another. -/
def RunRow.change (run : RunRow) (target : LifecycleState) : LifecycleChange :=
  ⟨some run.lifecycleState, target⟩

namespace Store

variable (digests : StoreDigests)

/-- The row an event body is stored in. -/
def eventRow (body : EventBody) : EventRow := ⟨digests.event body, body⟩

/-- Insert an event and move the head of its run. -/
def append (store : Store) (body : EventBody) (state : LifecycleState) (cursor : Option String) :
    Except ControlError Store := do
  let events ← store.events.insert (eventRow digests body) (uniqueError "events")
  return { store with
    events := events
    runs := store.runs.update (fun row => row.runId = body.runId)
      (fun row => row.advance state cursor (eventRow digests body)) (fun _ _ => Iff.rfl) }

/-- `INSERT INTO command_outcomes`. -/
def recordOutcome (store : Store) (body : EventBody) : Except ControlError Store := do
  let outcomes ← store.commandOutcomes.insert
    ⟨body.commandId, body.eventId, body.sequence, digests.event body⟩
    (uniqueError "command_outcomes")
  return { store with commandOutcomes := outcomes }

/-- Whether a command already has an outcome. -/
def outcome? (store : Store) (commandId : String) : Option CommandOutcome :=
  store.commandOutcomes.find? (fun row => row.commandId = commandId)

end Store

/-- The reservation columns a settlement rewrites. -/
def Reservation.settled (reservation : Reservation) (settlement : SettlementBody) (hash : String) :
    Reservation :=
  { reservation with
    heldUnits := settlement.heldUnits
    chargedUnits := settlement.chargedUnits
    uncertainty := settlement.uncertainty
    disposition := settlement.request.disposition
    settlementHeadHash := hash }

namespace Store

/-- Insert a settlement and rewrite its reservation. -/
def settle (store : Store) (row : SettlementRow) : Except ControlError Store := do
  let settlements ← store.settlements.insert row (uniqueError "budget_settlements")
  return { store with
    settlements := settlements
    reservations := store.reservations.update
      (fun reservation => reservation.reservationId = row.reservationId)
      (fun reservation => reservation.settled row.body row.settlementHash) (fun _ _ => Iff.rfl) }

/-- Insert fences one by one. -/
def raiseFences (store : Store) (fences : List Fence) : Except ControlError Store := do
  let fences ← fences.foldlM (fun table fence => table.insert fence (uniqueError "dispatch_fences"))
    store.fences
  return { store with fences := fences }

/-- The fences over an attempt. -/
def activeFences (store : Store) (scope : AttemptScope) : List FenceId :=
  (store.fences.rows.filter (fun fence => fence.applies scope)).map (·.fenceId)

/-- `DELETE FROM dispatch_fences WHERE fence_id = ?`. -/
def clearFence (store : Store) (fenceId : FenceId) : Store :=
  { store with fences := store.fences.delete (fun fence => fence.fenceId = fenceId) }

end Store

end Aegis.DeliveryControl
