/-
# DeliveryControl.BudgetSettlement — settling one reservation

`_settle_budget`: the checks of a settlement request, the accounting it derives,
the route of a non-execution proof, and its writes: the settlement, its event,
the fences it raises and resolves, and the outstanding slot when the request
releases it. A contradicted non-execution proof also fences the adoptions that
depend on the run (`_fence_dependent_adoptions`).
-/
import Aegis.DeliveryControl.StoreWrites

namespace Aegis.DeliveryControl

open Aegis.Lib
open Aegis.Lib.Guarded
open Aegis.DeliveryControl.TargetLedger (ContactKind)

set_option autoImplicit false

/-! ## Dependent adoptions -/

/-- `ORDER BY dependency.depth, dependency.dependent_run_id`. -/
def AdoptionDependency.precedes (a b : AdoptionDependency) : Bool :=
  a.depth < b.depth || (a.depth = b.depth && a.dependentRunId ≤ b.dependentRunId)

/-- One turn of `_fence_dependent_adoptions`. -/
def fenceDependentAdoption (digests : StoreDigests) (repositoryId sourceRunId : String)
    (originatingEventId : String) (provenance : ProvenanceKind) (store : Store)
    (dependency : AdoptionDependency) : Except ControlError Store :=
  let fenceDigest := digests.adoptionFence repositoryId sourceRunId dependency.dependentRunId
    originatingEventId
  let eventId := "dependent-adoption-event:" ++ fenceDigest
  match store.run? dependency.dependentRunId with
  | none => .ok store
  | some run =>
      if store.events.any (fun row => row.body.eventId = eventId) then .ok store
      else do
        let resulting := dependentAdoptionState run.lifecycleState provenance
        let body := run.nextBody eventId ("dependent-adoption-command:" ++ fenceDigest)
          (some (run.change resulting)) none (.dependentAdoptionFenced provenance fenceDigest)
        let store ← store.raiseFences
          [{ fenceId := .dependentAdoption fenceDigest
             repositoryId := repositoryId
             itemId := some run.itemId
             logicalEffectId := some run.logicalEffectId
             reasonCode := .dependentAdoption provenance
             originatingEventId := eventId }]
        store.append digests body resulting run.continuationCursor

/-- `_fence_dependent_adoptions`. -/
def fenceDependentAdoptions (digests : StoreDigests) (repositoryId sourceRunId : String)
    (originatingEventId : String) (provenance : ProvenanceKind) (store : Store) :
    Except ControlError Store :=
  ((store.dependencies.rows.filter (fun row => row.repositoryId = repositoryId &&
      row.ancestorRunId = sourceRunId)).mergeSort AdoptionDependency.precedes).foldlM
    (fenceDependentAdoption digests repositoryId sourceRunId originatingEventId provenance) store

/-! ## The request -/

/-- `BudgetSettlementRequest.validate`. -/
def BudgetSettlementRequest.validate (request : BudgetSettlementRequest) :
    Except ControlError Unit := do
  require (∀ value ∈ [request.settlementEventId, request.reservationId, request.evidenceDigest,
      request.reasonCode, request.scope.repositoryId, request.scope.runId, request.scope.itemId,
      request.scope.logicalEffectId, request.scope.attemptId], nonBlank value)
    (ControlError.valueError "settlement identifiers, binding, and evidence must be non-empty")
  require (∀ sealId ∈ request.nonexecutionSealId, nonBlank sealId)
    (ControlError.valueError "nonexecution seal ID must be non-empty when supplied")
  refuse (request.additionalLiability = true ∧ request.disposition ≠ .unknownWorstCaseCharged)
    (ControlError.valueError "additional liability is represented only by unknown accounting")

/-- `SettlementReceipt`. -/
structure SettlementReceipt where
  settlementEventId : String
  settlementHash : String
  heldUnits : Nat
  chargedUnits : Nat
  uncertainty : Bool
  slotReleased : Bool
  replayed : Bool
  deriving DecidableEq, Repr

/-- The receipt of a stored settlement. -/
def SettlementRow.receipt (row : SettlementRow) (replayed : Bool) : SettlementReceipt where
  settlementEventId := row.settlementEventId
  settlementHash := row.settlementHash
  heldUnits := row.body.heldUnits
  chargedUnits := row.body.chargedUnits
  uncertainty := row.body.uncertainty
  slotReleased := row.body.request.releaseSlot
  replayed := replayed

/-! ## Lookups -/

/-- The slot row of an attempt. -/
def Store.slotOf? (store : Store) (scope : AttemptScope) : Option SlotRow :=
  store.slot.find? (fun row => row.repositoryId = scope.repositoryId && row.runId = scope.runId &&
    row.logicalEffectId = scope.logicalEffectId && row.attemptId = scope.attemptId)

/-- The run of a scope, by run and repository. -/
def Store.runOf? (store : Store) (scope : AttemptScope) : Option RunRow :=
  store.runs.find? (fun row => row.runId = scope.runId && row.repositoryId = scope.repositoryId)

/-- The validator intent that reserved. -/
def Store.validatorOf? (store : Store) (reservationId : String) : Option ValidatorIntent :=
  store.validatorIntents.find? (fun row => row.reservationId = reservationId)

/-- The validator intents of a run that are not settled. -/
def Store.activeValidator (store : Store) (repositoryId runId : String) : Bool :=
  store.validatorIntents.any (fun row => row.scope.repositoryId = repositoryId &&
    row.scope.runId = runId && row.active)

/-- The predecessor of an unknown accounting that the settlement resolves, and the
fence it raised if it was an additional liability. -/
def resolvedFence (store : Store) (reservation : Reservation) (next : BudgetDisposition) :
    Except ControlError (Option FenceId) :=
  if resolvesUnknown reservation.disposition next then do
    let predecessor ← fetch (store.settlements.find? (fun row =>
        row.reservationId = reservation.reservationId &&
          row.settlementHash = reservation.settlementHeadHash))
      (ControlError.storageIntegrityError "unknown accounting lost its settlement predecessor")
    return if predecessor.body.request.additionalLiability then
      some (.additionalLiability predecessor.settlementEventId) else none
  else .ok none

/-- Whether the fence of a pause still stands. -/
def Store.pauseStands (store : Store) (pause : PauseAction) : Bool :=
  store.fences.any (fun fence => fence.fenceId = .pause pause.fenceId)

/-- The external pause of an attempt, or the validation pause of its validator. -/
def Store.pauseActive (store : Store) (scope : AttemptScope) (validator : Option ValidatorIntent) :
    Bool :=
  store.pauses.any (fun pause => pause.validatorIntentId = none && pause.scope = scope &&
      store.pauseStands pause) ||
    match validator with
    | some validator =>
        store.pauses.any (fun pause =>
          pause.validatorIntentId = some validator.validatorIntentId &&
            pause.scope.repositoryId = scope.repositoryId && pause.scope.runId = scope.runId &&
            pause.scope.itemId = scope.itemId &&
            pause.scope.logicalEffectId = scope.logicalEffectId && store.pauseStands pause)
    | none => false

/-! ## The non-execution proof -/

/-- `_local_nonexecution_contradiction`. -/
def localNonexecutionContradiction (store : Store) (reservation : Reservation) : Bool :=
  store.observations.any (fun row => row.scope.repositoryId = reservation.scope.repositoryId &&
      row.scope.logicalEffectId = reservation.scope.logicalEffectId &&
      row.scope.attemptId = reservation.scope.attemptId) ||
    store.validatorObservations.any (fun row => store.validatorIntents.any (fun intent =>
      intent.validatorIntentId = row.validatorIntentId &&
        intent.reservationId = reservation.reservationId))

/-- `_nonexecution_requires_seal`. -/
def nonexecutionRequiresSeal (store : Store) (reservation : Reservation)
    (currentOperationRecovery : Bool) : Bool :=
  currentOperationRecovery ||
    store.launches.any (fun row => row.scope.repositoryId = reservation.scope.repositoryId &&
      row.scope.logicalEffectId = reservation.scope.logicalEffectId &&
      row.scope.attemptId = reservation.scope.attemptId) ||
    store.contacts.any (fun contact => store.validatorIntents.any (fun intent =>
      intent.reservationId = reservation.reservationId &&
        contact.sourceId = "VALIDATOR:" ++ intent.validatorIntentId))

/-- What a proof of non-execution showed: whether something contradicts it, and
whether a canonical seal backs it. -/
structure NonexecutionEvidence where
  contradiction : Bool
  withSeal : Bool
  deriving DecidableEq, Repr

/-- The seal and contradiction checks of a non-execution proof. -/
def nonexecutionEvidence (checks : Checks) (store : Store) (request : BudgetSettlementRequest)
    (reservation : Reservation) : Except ControlError NonexecutionEvidence :=
  if request.nonDispatchProven then do
    let recovery := request.allObligationsSettled && !request.releaseSlot &&
      (store.slotOf? reservation.scope).isSome
    let withSeal := nonexecutionRequiresSeal store reservation recovery ||
      request.nonexecutionSealId.isSome
    require (withSeal = true → request.nonexecutionSealId.isSome = true)
      (ControlError.dispatchDenied "durable handoff requires a canonical nonexecution seal")
    require (withSeal = true → checks .seal = true)
      (ControlError.dispatchDenied "canonical nonexecution seal does not bind the settlement")
    let contradiction := (withSeal && checks .sealExecuted) ||
      localNonexecutionContradiction store reservation
    refuse (contradiction = true ∧ (request.disposition = .released ∨
        request.releaseSlot = true ∨ request.allObligationsSettled = true))
      (ControlError.dispatchDenied "contradictory nonexecution proof cannot release liability")
    return ⟨contradiction, withSeal⟩
  else .ok ⟨false, false⟩

/-- The accounting of a request; the store raises its refusals as `DispatchDenied`. -/
def settlementAccounting (reservation : Reservation) (request : BudgetSettlementRequest) :
    Except ControlError (Nat × Nat × Bool) :=
  match deriveSettlementAccounting reservation.disposition reservation.chargedUnits
      reservation.worstCaseUnits request.disposition request.actualUnits
      request.additionalLiability request.nonDispatchProven request.zeroLiabilityProven with
  | .error (.valueError message) => .error (.dispatchDenied message)
  | derived => derived

/-! ## `_settle_budget` -/

/-- What the checks of a settlement looked up and derived. -/
structure SettlementPlan where
  reservation : Reservation
  run : RunRow
  settlement : SettlementBody
  withSeal : Bool
  resolved : Option FenceId
  validator : Option ValidatorIntent
  slot : Option SlotRow
  target : LifecycleState × Option String

/-- The checks of a settlement that was not recorded before. -/
def checkSettlement (checks : Checks) (store : Store) (request : BudgetSettlementRequest)
    (reservation : Reservation) : Except ControlError SettlementPlan := do
  checks.require .freshness
    (ControlError.dispatchDenied "independent recovery freshness proof failed")
  require (reservation.settlementHeadHash = request.expectedPreviousHash)
    (ControlError.dispatchDenied "stale budget settlement predecessor")
  refuse (request.disposition = .released ∧ store.settlements.any (fun row =>
      row.reservationId = request.reservationId && row.body.request.disposition = .released) = true)
    (ControlError.dispatchDenied "budget reservation was already released in its history")
  let evidence ← nonexecutionEvidence checks store request reservation
  let (held, charged, uncertainty) ← settlementAccounting reservation request
  let resolved ← resolvedFence store reservation request.disposition
  let lost := ControlError.storageIntegrityError "budget reservation lost its run binding"
  let run ← fetch (store.runOf? reservation.scope) lost
  require (run.itemId = reservation.scope.itemId) lost
  let validator := if request.nonDispatchProven then store.validatorOf? request.reservationId
    else none
  refuse (validator.isSome = true ∧ request.releaseSlot = true)
    (ControlError.dispatchDenied
      "validator nonexecution cannot release the parent operation slot")
  let slot := store.slotOf? reservation.scope
  let currentAttempt := (validator.map (·.active)).getD false || slot.isSome
  let target ← if request.nonDispatchProven then
      deriveNonexecutionRoute run.lifecycleState run.continuationCursor evidence.contradiction
        uncertainty currentAttempt validator.isSome reservation.scope.attemptId
        (store.pauseActive reservation.scope validator)
    else .ok (run.lifecycleState, run.continuationCursor)
  return {
    reservation := reservation
    run := run
    settlement :=
      { request := request
        heldUnits := held
        chargedUnits := charged
        uncertainty := uncertainty
        contradiction := evidence.contradiction }
    withSeal := evidence.withSeal
    resolved := resolved
    validator := validator
    slot := slot
    target := target }

/-- The event of a settlement. -/
def SettlementPlan.body (plan : SettlementPlan) : EventBody :=
  let settlementEventId := plan.settlement.request.settlementEventId
  if plan.settlement.request.nonDispatchProven then
    plan.run.nextBody settlementEventId ("settlement:" ++ settlementEventId)
      (some (plan.run.change plan.target.1)) (some plan.target.2)
      (.nondispatchProven plan.settlement)
  else
    plan.run.nextBody settlementEventId ("settlement:" ++ settlementEventId) none none
      (.budgetSettled plan.settlement)

/-- The fences a live settlement raises. -/
def SettlementPlan.raises (plan : SettlementPlan) : List Fence :=
  let reservation := plan.reservation
  let request := plan.settlement.request
  let repositoryId := reservation.scope.repositoryId
  (if isBudgetBreach request.disposition plan.settlement.chargedUnits reservation.reservedUnits
      reservation.capUnits then [breachFence repositoryId request.settlementEventId] else []) ++
    (if reservation.disposition = .released ∧ request.disposition ≠ .released then
      [lateFence repositoryId request.settlementEventId] else []) ++
    (if request.additionalLiability then
      [additionalFence repositoryId request.settlementEventId] else []) ++
    if plan.settlement.contradiction then
      [{ fenceId := .nonexecutionContradiction request.settlementEventId
         repositoryId := repositoryId
         itemId := some reservation.scope.itemId
         logicalEffectId := some reservation.scope.logicalEffectId
         reasonCode := .nonexecutionContradiction
         originatingEventId := request.settlementEventId }]
    else []

/-- A proof that leaves nothing open: no contradiction, known usage, every obligation settled. -/
def SettlementPlan.conclusive (plan : SettlementPlan) : Bool :=
  plan.settlement.request.nonDispatchProven && !plan.settlement.contradiction &&
    !plan.settlement.uncertainty && plan.settlement.request.allObligationsSettled

/-- A conclusive proof settles the validator intent and clears its initiation fence. -/
def settleValidator (store : Store) (plan : SettlementPlan) : Except ControlError Store :=
  match plan.validator with
  | some validator =>
      if plan.conclusive && plan.run.lifecycleState ≠ .failedFinal &&
          plan.run.lifecycleState ≠ .stopped then do
        let fenceId := FenceId.validatorInitiationDisabled validator.validatorIntentId
        refuse (store.fences.any (fun fence => fence.fenceId = fenceId &&
            fence.reasonCode ≠ .validationLaunchPrerequisiteChanged) = true)
          (ControlError.storageIntegrityError "validator initiation fence was rebound")
        return { store.clearFence fenceId with
          validatorIntents := store.validatorIntents.update
            (fun row => row.validatorIntentId = validator.validatorIntentId)
            (fun row => { row with active := false }) ValidatorIntent.conflict_inactive }
      else .ok store
  | none => .ok store

/-- A conclusive proof for the current operation, backed by a seal, clears the
fences of the uncertainties it resolves. -/
def resolveUncertainties (store : Store) (plan : SettlementPlan) (uncertaintyFences : List String) :
    Except ControlError Store :=
  if plan.conclusive && plan.validator.isNone && plan.slot.isSome && plan.withSeal &&
      !plan.settlement.request.releaseSlot && !plan.run.lifecycleState.terminal then
    uncertaintyFences.foldlM (fun store fenceId => do
      require (store.fences.any (fun fence => fence.fenceId = .other fenceId) = true)
        (ControlError.storageIntegrityError
          "resolved proven-nonexecution fence is absent or rebound")
      return store.clearFence (.other fenceId)) store
  else .ok store

/-- The additional-liability fence a settlement resolves must stand, and goes. -/
def clearResolved (store : Store) (resolved : Option FenceId) : Except ControlError Store :=
  match resolved with
  | some fenceId => do
      require (store.fences.any (fun fence => fence.fenceId = fenceId) = true)
        (ControlError.storageIntegrityError "resolved accounting fence is absent or rebound")
      return store.clearFence fenceId
  | none => .ok store

/-- The slot release a request asks for. -/
def releaseSettledSlot (store : Store) (plan : SettlementPlan) : Except ControlError Store :=
  let request := plan.settlement.request
  let scope := plan.reservation.scope
  if request.releaseSlot then do
    require (request.disposition = .released ∧ request.nonDispatchProven = true ∧
        request.zeroLiabilityProven = true)
      (ControlError.dispatchDenied "successful operation slot release requires T16 finalization")
    refuse (plan.settlement.uncertainty = true ∨ request.allObligationsSettled = false)
      (ControlError.dispatchDenied
        "slot release requires known settlement and all obligations settled")
    refuse (store.activeValidator scope.repositoryId scope.runId = true)
      (ControlError.dispatchDenied "slot release requires every validator obligation settled")
    let slot ← fetch plan.slot
      (ControlError.storageIntegrityError "budget settlement did not own the outstanding slot")
    return { store with
      slot := store.slot.delete (fun row => row.repositoryId = scope.repositoryId &&
        row.runId = scope.runId && row.logicalEffectId = scope.logicalEffectId &&
        row.attemptId = scope.attemptId && row.generation = slot.generation) }
  else .ok store

/-- A settlement with its fences, its slot and its event. -/
def recordSettlement (digests : StoreDigests) (store : Store) (plan : SettlementPlan)
    (uncertaintyFences : List String) : Except ControlError Store := do
  let store ← store.settle
    ⟨digests.event plan.body, plan.settlement.request.nonDispatchProven, plan.settlement⟩
  let store ← settleValidator store plan
  let store ← resolveUncertainties store plan uncertaintyFences
  let store ← store.raiseFences plan.raises
  let store ← clearResolved store plan.resolved
  let store ← releaseSettledSlot store plan
  store.append digests plan.body plan.target.1 plan.target.2

/-- The writes of a settlement. -/
def writeSettlement (digests : StoreDigests) (store : Store) (plan : SettlementPlan)
    (uncertaintyFences : List String) : Except ControlError Store := do
  let store ← recordSettlement digests store plan uncertaintyFences
  if plan.settlement.contradiction then
    fenceDependentAdoptions digests plan.reservation.scope.repositoryId
      plan.reservation.scope.runId plan.settlement.request.settlementEventId .nonexecution store
  else .ok store

/-- `_settle_budget`. -/
def settleBudget (digests : StoreDigests) (checks : Checks) (request : BudgetSettlementRequest)
    (uncertaintyFences : List String) (store : Store) :
    Except ControlError (SettlementReceipt × Store) := do
  request.validate
  checks.require .evidence
    (ControlError.dispatchDenied "settlement proof does not match requested claims")
  verifyProjections checks store
  let unbound := ControlError.dispatchDenied "budget settlement does not bind the reservation"
  let reservation ← fetch (store.reservation? request.reservationId) unbound
  require (reservation.scope = request.scope) unbound
  checks.require .planIssuer
    (ControlError.dispatchDenied "authority does not match the accepted plan")
  match store.settlements.find? (fun row => row.settlementEventId = request.settlementEventId) with
  | some prior => do
      checks.require .samePayload
        (ControlError.storageIntegrityError
          "settlement event ID was reused with a different payload")
      return (prior.receipt true, store)
  | none => do
      let plan ← checkSettlement checks store request reservation
      let after ← writeSettlement digests store plan uncertaintyFences
      return (SettlementRow.receipt ⟨digests.event plan.body, request.nonDispatchProven,
        plan.settlement⟩ false, after)

end Aegis.DeliveryControl
