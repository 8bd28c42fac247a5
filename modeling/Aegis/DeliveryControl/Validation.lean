/-
# DeliveryControl.Validation — validators of an operation and their results

The operations of the store that run while the operation's effect is validated:
`commit_validator_intent` reserves budget for one validator of the operation that
owns the slot, `_contact_committed_validator` claims its contact,
`_record_validator_observation` records its result, `_apply_validator_observation`
applies it to the run, and `settle_terminal_validation` settles what is left of a
run that failed or was stopped. The last two can release the outstanding slot.
-/
import Aegis.DeliveryControl.Dispatch
import Aegis.DeliveryControl.EffectObservation

namespace Aegis.DeliveryControl

open Aegis.Lib
open Aegis.Lib.Guarded
open Aegis.DeliveryControl.TargetLedger (ContactKind)

set_option autoImplicit false

/-! ## The generation of an attempt -/

/-- The committed intents of an attempt, each with its event. -/
def Store.intentsOf (store : Store) (scope : AttemptScope) : List (EventRow × OperationIntent) :=
  store.events.rows.filterMap (fun row =>
    match row.body.detail with
    | .intentCommitted intent _ =>
        if row.body.repositoryId = scope.repositoryId ∧ row.body.runId = scope.runId ∧
            row.body.itemId = scope.itemId ∧ store.redemptions.any (fun redemption =>
              redemption.commandId = row.body.commandId &&
                redemption.logicalEffectId = scope.logicalEffectId &&
                redemption.attemptId = scope.attemptId) then some (row, intent) else none
    | _ => none)

/-- The authorization of a retry is the one its event consumed. -/
def retryConsistent (store : Store) (scope : AttemptScope) (row : EventRow)
    (retry : RetryBinding) : Bool :=
  store.authorizations.any (fun authorization => authorization.kind = retry.kind &&
    authorization.authorizationId = retry.recoveryAuthorizationId &&
    authorization.scope = { scope with attemptId := retry.priorAttemptId } &&
    authorization.successorAttemptId = scope.attemptId &&
    authorization.sourceGeneration = retry.expectedSourceGeneration &&
    authorization.targetGeneration = retry.expectedTargetGeneration &&
    authorization.consumingEventId = some row.body.eventId)

/-- `_operation_attempt_generation`, without a sequence limit: the generation of
the adoption that the attempt belongs to, or of its one exact intent. -/
def operationAttemptGeneration (store : Store) (scope : AttemptScope) :
    Except ControlError Nat :=
  match store.adoptions.find? (fun row => row.repositoryId = scope.repositoryId &&
      row.runId = scope.runId && row.logicalEffectId = scope.logicalEffectId &&
      row.slotAttemptId = scope.attemptId) with
  | some adoption => .ok adoption.slotGeneration
  | none =>
      match store.intentsOf scope with
      | [(row, intent)] => do
          require (intent.scope = scope)
            (ControlError.storageIntegrityError
              "operation intent generation binding is invalid")
          require (∀ retry ∈ intent.retry, retryConsistent store scope row retry = true)
            (ControlError.storageIntegrityError
              "operation intent generation binding is invalid")
          return intent.slotGeneration
      | _ => .error (.storageIntegrityError
          "operation attempt does not have one exact durable intent")

/-! ## `commit_validator_intent` -/

/-- The latest application of a check, by sequence. -/
def Store.latestApplication (store : Store) (runId checkId : String) : Option Application :=
  (store.applications.rows.filter (fun row => row.runId = runId && row.checkId = checkId)).foldl
    (fun latest row => match latest with
      | some earlier => if earlier.sequence < row.sequence then some row else latest
      | none => some row) none

/-- The latest application of the check passed. -/
def Store.checkPassed (store : Store) (runId checkId : String) : Bool :=
  match store.latestApplication runId checkId with
  | some application => application.verdict = .pass
  | none => false

/-- The slot row binds the operation under the generation of its attempt. -/
def slotBinds (slot : SlotRow) (scope : AttemptScope) (operationAttemptId : String)
    (generation : Nat) : Prop :=
  slot.runId = scope.runId ∧ slot.logicalEffectId = scope.logicalEffectId ∧
    slot.attemptId = operationAttemptId ∧ slot.generation = generation

instance (slot : SlotRow) (scope : AttemptScope) (operationAttemptId : String)
    (generation : Nat) : Decidable (slotBinds slot scope operationAttemptId generation) :=
  inferInstanceAs (Decidable (_ ∧ _))

/-- The reservation of a validator intent. -/
def validatorReservation (request : ValidatorIntentRequest) : Except ControlError Reservation :=
  if ordered : request.reservedUnits ≤ request.worstCaseUnits ∧
      request.worstCaseUnits ≤ request.capUnits then
    .ok {
      reservationId := request.reservationId
      scope := request.scope
      reservedUnits := request.reservedUnits
      worstCaseUnits := request.worstCaseUnits
      capUnits := request.capUnits
      heldUnits := request.reservedUnits
      chargedUnits := 0
      uncertainty := false
      disposition := .reserved
      settlementHeadHash := ""
      reserved_le_worst := ordered.1
      worst_le_cap := ordered.2 }
  else .error (.integrityError "CHECK constraint failed: budget_reservations")

/-- The checks of a validator intent. -/
def checkValidatorIntent (checks : Checks) (store : Store) (request : ValidatorIntentRequest) :
    Except ControlError RunRow := do
  checks.require .freshness
    (ControlError.dispatchDenied "independent recovery freshness proof failed")
  checks.require .planIssuer
    (ControlError.dispatchDenied "authority does not match the accepted plan")
  checks.require .effectiveAuthority
    (ControlError.dispatchDenied "synthetic authority is not currently effective")
  let unbound := ControlError.dispatchDenied "validator intent does not bind the run"
  let run ← fetch (store.runOf? request.scope) unbound
  require (run.itemId = request.scope.itemId) unbound
  require (run.lifecycleState = .validating)
    (ControlError.dispatchDenied "T27 requires durable VALIDATING state")
  require (run.logicalEffectId = request.scope.logicalEffectId)
    (ControlError.dispatchDenied "validator intent does not bind an accepted validation plan")
  require (store.requirements.any (fun row => row.runId = request.scope.runId &&
      row.checkId = request.checkId) = true)
    (ControlError.dispatchDenied "validator check was not declared at acceptance")
  refuse (store.checkPassed request.scope.runId request.checkId = true)
    (ControlError.dispatchDenied "validation check already passed")
  checks.require .validatorEvidence
    (ControlError.dispatchDenied "validator intent does not bind the parent observation")
  let generation ← operationAttemptGeneration store
    { request.scope with attemptId := request.parentAttemptId }
  let ownsNot := ControlError.dispatchDenied "validator intent does not own the operation slot"
  let slot ← fetch (store.slot? request.scope.repositoryId) ownsNot
  require (slotBinds slot request.scope request.parentAttemptId generation) ownsNot
  refuse (store.validatorIntents.any (fun row =>
      row.scope.repositoryId = request.scope.repositoryId && row.active) = true)
    (ControlError.dispatchDenied "another validator obligation is active")
  refuse (store.fences.any (fun fence =>
      fence.repositoryId = request.scope.repositoryId &&
        (fence.reasonCode ≠ .failedFinalApplication ||
          fence.itemId = some request.scope.itemId ||
          fence.logicalEffectId = some request.scope.logicalEffectId)) = true)
    (ControlError.dispatchDenied "repository has an active dispatch fence")
  require (store.aggregate request.scope.repositoryId + request.reservedUnits ≤ request.capUnits)
    (ControlError.dispatchDenied "budget cap would be exceeded")
  checks.require .launchSnapshot
    (ControlError.dispatchDenied "validation launch snapshot is stale or rebound")
  return run

/-- The cursor of a run whose validator has an intent but no contact. -/
def validatorCursor (validatorIntentId : String) : Option String :=
  some ("validator-intent:v1:" ++ validatorIntentId)

/-- `commit_validator_intent`, less its receipt. -/
def commitValidatorIntent (digests : StoreDigests) (repositoryId : String) (checks : Checks)
    (request : ValidatorIntentRequest) (capability : SyntheticValidatorCapability)
    (store : Store) : Except ControlError Store := do
  require (request.scope.repositoryId = repositoryId)
    (ControlError.dispatchDenied "validator intent targets a different repository")
  verifyProjections checks store
  match store.outcome? request.commandId with
  | some _ => do
      checks.require .samePayload
        (ControlError.storageIntegrityError "command ID was reused with a different payload")
      return store
  | none => do
      let run ← checkValidatorIntent checks store request
      let cursor := validatorCursor request.validatorIntentId
      let body := run.nextBody request.eventId request.commandId
        (some (run.change .reconciliationRequired)) (some cursor)
        (.validatorIntentCommitted request capability.claimId)
      let uses ← store.permissionUses.insert
        ⟨request.permissionUseId, request.scope.repositoryId, request.scope.logicalEffectId,
          request.scope.attemptId⟩
        (uniqueError "permission_uses")
      let reservation ← validatorReservation request
      let reservations ← store.reservations.insert reservation (uniqueError "budget_reservations")
      let intents ← store.validatorIntents.insert
        { validatorIntentId := request.validatorIntentId
          eventId := request.eventId
          scope := request.scope
          checkId := request.checkId
          parentAttemptId := request.parentAttemptId
          reservationId := request.reservationId
          capabilityClaimId := capability.claimId
          active := true }
        (uniqueError "validator_intents")
      let redemptions ← store.redemptions.insert
        ⟨capability.claimId, request.scope.repositoryId, capability.grantId, request.commandId,
          request.scope.logicalEffectId, request.scope.attemptId, capability.scopeDigest⟩
        (uniqueError "capability_redemptions")
      let store ← { store with
        permissionUses := uses
        reservations := reservations
        validatorIntents := intents
        redemptions := redemptions }.append digests body .reconciliationRequired cursor
      store.recordOutcome digests body

/-! ## `_contact_committed_validator` -/

/-- `_record_validator_initiation_disabled`. -/
def recordValidatorInitiationDisabled (digests : StoreDigests) (store : Store)
    (request : ValidatorIntentRequest) : Except ControlError Store := do
  let fenceId := FenceId.validatorInitiationDisabled request.validatorIntentId
  let commandId := "validator-initiation-disabled:" ++ request.validatorIntentId
  refuse (store.fences.any (fun fence => fence.fenceId = fenceId) = true)
    (ControlError.dispatchDenied "validator initiation is already disabled")
  let inexact := ControlError.dispatchDenied
    "validator initiation disable requires exact initiation reconciliation"
  let run ← fetch (store.runOf? request.scope) inexact
  require (run.lifecycleState = .reconciliationRequired ∧
    run.continuationCursor = validatorCursor request.validatorIntentId) inexact
  let body := run.nextBody ("event:" ++ commandId) commandId (some (run.change .blocked))
    (some (some commandId)) (.recorded .validatorInitiationDisabled)
  let store ← store.raiseFences
    [{ fenceId := fenceId
       repositoryId := request.scope.repositoryId
       itemId := some request.scope.itemId
       logicalEffectId := some request.scope.logicalEffectId
       reasonCode := .validationLaunchPrerequisiteChanged
       originatingEventId := body.eventId }]
  store.append digests body .blocked (some commandId)

/-- `_contact_committed_validator`. A launch whose prerequisites changed is durably
disabled instead; the source then raises after its commit. -/
def contactCommittedValidator (digests : StoreDigests) (checks : Checks)
    (request : ValidatorIntentRequest) (targetDigest : String) (store : Store) :
    Except ControlError Store := do
  verifyStore checks store
  checks.require .planIssuer
    (ControlError.dispatchDenied "authority does not match the accepted plan")
  checks.require .effectiveAuthority
    (ControlError.dispatchDenied "synthetic authority is not currently effective")
  let unbound := ControlError.dispatchDenied
    "validator contact does not bind a durable active intent"
  let intent ← fetch (store.validatorIntents.find? (fun row =>
    row.validatorIntentId = request.validatorIntentId)) unbound
  require (intent.scope = request.scope ∧ intent.checkId = request.checkId ∧
    intent.parentAttemptId = request.parentAttemptId ∧
    intent.reservationId = request.reservationId ∧ intent.active = true) unbound
  checks.require .validatorEvidence
    (ControlError.dispatchDenied "validator containment durable binding changed")
  let generation ← operationAttemptGeneration store
    { request.scope with attemptId := request.parentAttemptId }
  let sourceId := "VALIDATOR:" ++ request.validatorIntentId
  if store.contacts.any (fun row => row.sourceId = sourceId) then
    checks.require .samePayload
      (ControlError.storageIntegrityError "validator contact replay binding is inconsistent")
    return store
  else
    let inexact := ControlError.dispatchDenied
      "validator contact requires exact initiation reconciliation"
    let run ← fetch (store.runOf? request.scope) inexact
    require (run.lifecycleState = .reconciliationRequired ∧
      run.continuationCursor = validatorCursor request.validatorIntentId) inexact
    let settled := ControlError.dispatchDenied
      "validator contact requires an unsettled reservation"
    let reservation ← fetch (store.reservation? request.reservationId) settled
    require (reservation.disposition = .reserved ∧ reservation.settlementHeadHash = "") settled
    let slotless := ControlError.dispatchDenied "validator contact does not bind the slot"
    let slot ← fetch (store.slot? request.scope.repositoryId) slotless
    require (slotBinds slot request.scope request.parentAttemptId generation) slotless
    if checks .launchSnapshot then
      require (store.activeFences request.scope = [])
        (ControlError.dispatchDenied "validator contact has an active dispatch fence")
      let (_, store) ← claimAdapterContact digests checks store .validator sourceId request.scope
        targetDigest .validating none
      return store
    else recordValidatorInitiationDisabled digests store request

/-! ## `_record_validator_observation` -/

/-- The members of `ValidatorObservationRequest` that the store reads back. -/
structure ValidatorObservationRequest where
  observationId : String
  sourceResultId : String
  commandId : String
  eventId : String
  scope : AttemptScope
  validatorIntentId : String
  sourceClaimId : String
  checkId : String
  verdict : Verdict
  usageUnits : Option Nat
  settlementEventId : String
  settlementHash : String
  deriving DecidableEq, Repr

/-- The settlement a validator's result names. -/
def checkValidatorAccounting (store : Store) (request : ValidatorObservationRequest)
    (intent : ValidatorIntent) : Except ControlError Unit := do
  let settlement ← fetch (store.settlements.find? (fun row =>
      row.settlementEventId = request.settlementEventId &&
        row.reservationId = intent.reservationId))
    (ControlError.dispatchDenied "validator observation accounting settlement does not exist")
  require (settlement.body.request.scope = request.scope ∧
      settlement.settlementHash = request.settlementHash ∧
      settlement.body.request.evidenceDigest = request.sourceResultId)
    (ControlError.dispatchDenied "validator observation accounting does not bind the result")
  match request.usageUnits with
  | none =>
      require (settlement.body.uncertainty = true)
        (.dispatchDenied "unknown validator usage requires uncertain accounting")
  | some usage =>
      require (settlement.body.uncertainty = false ∧ settlement.body.chargedUnits = usage)
        (.dispatchDenied "validator usage does not match settled accounting")

/-- The checks of a result that was not recorded before. -/
def checkValidatorObservation (store : Store) (request : ValidatorObservationRequest)
    (terminallySettled : Bool) : Except ControlError RunRow := do
  refuse (store.validatorObservations.any (fun row =>
      row.validatorIntentId = request.validatorIntentId && row.scope = request.scope) = true)
    (ControlError.dispatchDenied
      "validator intent and attempt already has its one result observation")
  let closed := ControlError.dispatchDenied
    "validator observation requires an open or terminally settled intent"
  let intent ← fetch (store.validatorIntents.find? (fun row =>
    row.validatorIntentId = request.validatorIntentId)) closed
  require (intent.active = true ∨ terminallySettled = true) closed
  require (intent.scope = request.scope ∧ intent.capabilityClaimId = request.sourceClaimId ∧
      intent.checkId = request.checkId)
    (ControlError.dispatchDenied "validator observation does not bind the durable intent")
  let run ← fetch (store.runOf? request.scope)
    (ControlError.storageIntegrityError "validator observation run is absent")
  checkValidatorAccounting store request intent
  return run

/-- What the tables of cessations, uncertainties and terminal policies add to a result. -/
structure ResultContext where
  terminallySettled : Bool
  activityKnown : Bool
  uncertainties : List (String × String)
  stopsDependents : Bool
  deriving DecidableEq, Repr

/-- The state a validator's result leads to. -/
def validatorObservationState (current : LifecycleState) (usageUnits : Option Nat)
    (activityKnown : Bool) : LifecycleState :=
  if current.terminal || (usageUnits.isSome && activityKnown) then current
  else .reconciliationRequired

/-- `_record_validator_observation`, less its receipt. -/
def recordValidatorObservation (digests : StoreDigests) (repositoryId : String) (checks : Checks)
    (request : ValidatorObservationRequest) (context : ResultContext) (store : Store) :
    Except ControlError Store := do
  require (request.scope.repositoryId = repositoryId)
    (ControlError.dispatchDenied "validator observation targets another repository")
  verifyStore checks store
  if (store.outcome? request.commandId).isSome ∨ store.validatorObservations.any (fun row =>
      row.observationId = request.observationId || row.sourceResultId = request.sourceResultId) then
    checks.require .samePayload
      (ControlError.storageIntegrityError
        "validator observation identity was reused with different evidence")
    return store
  else
    let run ← checkValidatorObservation store request context.terminallySettled
    let resulting := validatorObservationState run.lifecycleState request.usageUnits
      context.activityKnown
    let body := run.nextBody request.eventId request.commandId (some (run.change resulting)) none
      (.recorded .validatorObservationRecorded)
    let observations ← store.validatorObservations.insert
      { observationId := request.observationId
        sourceResultId := request.sourceResultId
        commandId := request.commandId
        eventId := request.eventId
        scope := request.scope
        validatorIntentId := request.validatorIntentId
        checkId := request.checkId
        verdict := request.verdict
        usageUnits := request.usageUnits
        settlementEventId := request.settlementEventId
        settlementHash := request.settlementHash
        applied := false }
      (uniqueError "validator_observations")
    let store ← { store with validatorObservations := observations }.raiseFences
      (uncertaintyFences request.scope request.eventId context.uncertainties)
    let store ← store.recordOutcome digests body
    let store ← store.append digests body resulting run.continuationCursor
    if context.stopsDependents then
      fenceDependentAdoptions digests request.scope.repositoryId request.scope.runId
        request.eventId .terminalPolicy store
    else return store

/-! ## `_apply_validator_observation` -/

/-- `ValidationApplicationRequest`. -/
structure ValidationApplicationRequest where
  applicationId : String
  commandId : String
  eventId : String
  scope : AttemptScope
  checkId : String
  observationId : String
  deriving DecidableEq, Repr

/-- `another_pending`: some other check of the run has no passing latest application. -/
def Store.anotherPending (store : Store) (runId checkId : String) : Bool :=
  store.requirements.any (fun row => row.runId = runId && row.checkId ≠ checkId &&
    !store.checkPassed runId row.checkId)

/-- The current accounting of the applied validator: nothing held, known usage. -/
def validatorAccountingSettled (store : Store) (observation : ValidatorObservation)
    (reservationId : String) : Bool :=
  store.reservations.any (fun reservation => reservation.reservationId = reservationId &&
    reservation.heldUnits = 0 && !reservation.uncertainty &&
    store.settlements.any (fun row => row.reservationId = reservationId &&
      row.settlementEventId = observation.settlementEventId &&
      row.settlementHash = observation.settlementHash) && observation.usageUnits.isSome)

/-- What the checks of an application looked up. -/
structure ApplicationPlan where
  run : RunRow
  observation : ValidatorObservation
  intent : ValidatorIntent
  generation : Nat
  slot : Option SlotRow
  route : ApplicationRoute

/-- The checks of an application, and its route. `reconciled` is the answer of the
lookup for a later reconciliation that settled the validator's accounting. -/
def checkApplication (checks : Checks) (store : Store) (request : ValidationApplicationRequest)
    (classification : Option FailureClassification) (reconciled : Bool) :
    Except ControlError ApplicationPlan := do
  let unbound := ControlError.dispatchDenied "validation application does not bind the run"
  let run ← fetch (store.runOf? request.scope) unbound
  require (run.itemId = request.scope.itemId) unbound
  require (run.lifecycleState = .validating)
    (ControlError.dispatchDenied "C05 requires durable VALIDATING state")
  require (run.logicalEffectId = request.scope.logicalEffectId)
    (ControlError.dispatchDenied "validation application does not bind the accepted plan")
  require (store.requirements.any (fun row => row.runId = request.scope.runId &&
      row.checkId = request.checkId) = true)
    (ControlError.dispatchDenied "validation check was not declared at acceptance")
  let unavailable := ControlError.dispatchDenied "validator RESULT observation is unavailable"
  let observation ← fetch (store.validatorObservations.find? (fun row =>
    row.observationId = request.observationId)) unavailable
  let intent ← fetch (store.validatorIntents.find? (fun row =>
    row.validatorIntentId = observation.validatorIntentId)) unavailable
  require (observation.scope = request.scope ∧ observation.checkId = request.checkId)
    (ControlError.dispatchDenied "validation application does not bind the recorded RESULT")
  let generation ← operationAttemptGeneration store
    { request.scope with attemptId := intent.parentAttemptId }
  require (observation.applied = false ∧ intent.active = true)
    (ControlError.storageIntegrityError
      "unapplied observation and active intent projections disagree")
  refuse (observation.verdict = .pass ∧ classification.isSome = true)
    (ControlError.dispatchDenied "PASS application does not accept a failure classification")
  refuse (observation.verdict = .fail ∧ classification.isNone = true)
    (ControlError.dispatchDenied "FAIL application requires a trusted failure classification")
  require (observation.verdict = .fail → checks .issued = true)
    (ControlError.dispatchDenied
      "failure classification does not bind the recorded observation")
  require (validatorAccountingSettled store observation intent.reservationId = true ∨
      reconciled = true)
    (ControlError.dispatchDenied "validator accounting is not fully settled")
  require (store.activeFences request.scope = [])
    (ControlError.dispatchDenied "repository has an active dispatch fence")
  let slot := store.slot.find? (fun row => row.repositoryId = request.scope.repositoryId &&
    row.runId = request.scope.runId)
  let adopted := store.adoptions.any (fun row => row.repositoryId = request.scope.repositoryId &&
    row.runId = request.scope.runId && row.slotAttemptId = intent.parentAttemptId)
  let route ← deriveValidationApplicationRoute observation.verdict classification
    (store.anotherPending request.scope.runId request.checkId)
    (store.validatorIntents.any (fun row =>
      row.scope.repositoryId = request.scope.repositoryId &&
        row.scope.runId = request.scope.runId && row.active &&
        row.validatorIntentId ≠ intent.validatorIntentId))
    (slot.any (fun slot => slotBinds slot request.scope intent.parentAttemptId generation))
    (classification = some .final && accountingClosed checks store
      { request.scope with attemptId := intent.parentAttemptId } false
      (some intent.validatorIntentId) adopted)
  return {
    run := run
    observation := observation
    intent := intent
    generation := generation
    slot := slot
    route := route }

/-- The event of an application; `nextCheck` is the check it routes to. -/
def ApplicationPlan.body (plan : ApplicationPlan) (request : ValidationApplicationRequest)
    (classification : Option FailureClassification) (nextCheck : Option String) : EventBody :=
  plan.run.nextBody request.eventId request.commandId
    (some (plan.run.change plan.route.resultingState))
    (some (match nextCheck with
      | some checkId => some ("validation-check:" ++ checkId)
      | none => plan.route.continuationCursor))
    (.validationApplied
      { applicationId := request.applicationId
        observationId := request.observationId
        checkId := request.checkId
        validatorAttemptId := request.scope.attemptId
        verdict := plan.route.verdict
        classification := classification }
      { logicalEffectId := request.scope.logicalEffectId
        slotAttemptId := plan.intent.parentAttemptId
        slotGeneration := plan.generation
        slotReleased := plan.route.slotReleased })

/-- The slot release of a final failure. -/
def releaseAppliedSlot (store : Store) (request : ValidationApplicationRequest)
    (plan : ApplicationPlan) : Except ControlError Store :=
  if plan.route.slotReleased then do
    let lost := ControlError.storageIntegrityError
      "final failure classification did not own the outstanding slot"
    let slot ← fetch (store.slot? request.scope.repositoryId) lost
    require (slot.runId = request.scope.runId) lost
    require (slot.generation = plan.generation)
      (ControlError.storageIntegrityError
        "final failure classification did not release the outstanding slot")
    return { store with
      slot := store.slot.delete (fun row => row.repositoryId = request.scope.repositoryId &&
        row.runId = request.scope.runId && row.logicalEffectId = slot.logicalEffectId &&
        row.attemptId = slot.attemptId && row.generation = plan.generation) }
  else .ok store

/-- The event that routes a passing application to its next check: `ready` says
whether the check can be launched at once. -/
def routeNextCheck (digests : StoreDigests) (store : Store)
    (request : ValidationApplicationRequest) (checkId : String) (ready : Bool) :
    Except ControlError Store := do
  let run ← fetch (store.runOf? request.scope)
    (ControlError.dispatchDenied "validation application does not bind the run")
  let routeId := "validation-route:" ++ request.applicationId
  let cursor := some (if ready then "validation-check:" ++ checkId
    else "validation-route:" ++ checkId ++ ":" ++ routeId)
  let resulting := if ready then LifecycleState.validating else .blocked
  let body := run.nextBody ("event:" ++ routeId) routeId (some (run.change resulting))
    (some cursor) (.recorded .validationCheckRouted)
  store.append digests body resulting cursor

/-- `_apply_validator_observation`, less its receipt and its recorded denials.
`nextCheck` is the next check of a passing application that leaves one pending. -/
def applyValidatorObservation (digests : StoreDigests) (repositoryId : String) (checks : Checks)
    (request : ValidationApplicationRequest) (classification : Option FailureClassification)
    (reconciled : Bool) (nextCheck : Option (String × Bool)) (store : Store) :
    Except ControlError Store := do
  require (request.scope.repositoryId = repositoryId)
    (ControlError.dispatchDenied "validation application targets another repository")
  verifyStore checks store
  if store.applications.any (fun row => row.commandId = request.commandId ||
      row.applicationId = request.applicationId || row.eventId = request.eventId ||
      row.observationId = request.observationId) then
    checks.require .samePayload
      (ControlError.storageIntegrityError
        "validation application identity was reused with another result")
    return store
  else
    refuse ((store.outcome? request.commandId).isSome = true)
      (ControlError.storageIntegrityError
        "validation application command lost its projection")
    let plan ← checkApplication checks store request classification reconciled
    require (nextCheck.isSome = true → plan.observation.verdict = .pass ∧
        store.anotherPending request.scope.runId request.checkId = true)
      (ControlError.storageIntegrityError "pending validation check lost its accepted binding")
    let body := plan.body request classification (nextCheck.map (·.1))
    let applications ← store.applications.insert
      { applicationId := request.applicationId
        commandId := request.commandId
        eventId := request.eventId
        runId := request.scope.runId
        checkId := request.checkId
        observationId := request.observationId
        verdict := plan.route.verdict
        classification := classification
        sequence := body.sequence }
      (uniqueError "validation_applications")
    let store ← { store with
      applications := applications
      validatorObservations := store.validatorObservations.update
        (fun row => row.observationId = request.observationId)
        (fun row => { row with applied := true }) (fun _ _ => Iff.rfl)
      validatorIntents := store.validatorIntents.update
        (fun row => row.validatorIntentId = plan.intent.validatorIntentId)
        (fun row => { row with active := false }) ValidatorIntent.conflict_inactive }.raiseFences
      (if plan.route.resultingState = LifecycleState.failedFinal then
        [{ fenceId := .failedFinal request.applicationId
           repositoryId := request.scope.repositoryId
           itemId := some request.scope.itemId
           logicalEffectId := some request.scope.logicalEffectId
           reasonCode := .failedFinalApplication
           originatingEventId := request.eventId }]
      else [])
    let store ← releaseAppliedSlot store request plan
    let store ← store.recordOutcome digests body
    let store ← store.append digests body plan.route.resultingState
      (body.continuationCursor.getD plan.run.continuationCursor)
    match nextCheck with
    | some (checkId, ready) => routeNextCheck digests store request checkId ready
    | none => .ok store

/-! ## `settle_terminal_validation` -/

/-- The members of `TerminalValidationSettlementRequest` that the store reads back;
the attempt of the scope is the validator's, when there is one. -/
structure TerminalValidationRequest where
  terminalSettlementId : String
  commandId : String
  eventId : String
  repositoryId : String
  runId : String
  itemId : String
  logicalEffectId : String
  checkId : String
  validatorIntentId : Option String
  ofApplication : Bool
  deriving DecidableEq, Repr

/-- A terminal validation releases the slot: the attempt that holds it. -/
def TerminalValidationRequest.scope (request : TerminalValidationRequest) (attemptId : String) :
    AttemptScope where
  repositoryId := request.repositoryId
  runId := request.runId
  itemId := request.itemId
  logicalEffectId := request.logicalEffectId
  attemptId := attemptId

/-- Whether a terminal validation that settles its last check releases the slot; a
settled application whose accounting is open is refused. -/
def terminalRelease (checks : Checks) (store : Store) (request : TerminalValidationRequest)
    (slot : SlotRow) : Except ControlError Bool :=
  let adopted := store.origins.any (fun row => row.repositoryId = request.repositoryId &&
    row.runId = request.runId && row.originKind = .effectAdoption)
  if checks .checksSettled then
    if accountingClosed checks store (request.scope slot.attemptId) false
        (if request.ofApplication then none else request.validatorIntentId) adopted then .ok true
    else do
      refuse (request.ofApplication = true)
        (ControlError.dispatchDenied "operation accounting remains unsettled")
      return false
  else .ok false

/-- `settle_terminal_validation`, less its receipt. -/
def settleTerminalValidation (digests : StoreDigests) (repositoryId : String) (checks : Checks)
    (request : TerminalValidationRequest) (replayed : Bool) (store : Store) :
    Except ControlError Store := do
  require (request.repositoryId = repositoryId)
    (ControlError.dispatchDenied
      "terminal validation settlement targets another repository")
  verifyStore checks store
  if replayed then return store
  else
    refuse ((store.outcome? request.commandId).isSome = true)
      (ControlError.storageIntegrityError "terminal settlement command lost its projection")
    let unbound := ControlError.dispatchDenied
      "terminal validation settlement does not bind the run"
    let run ← fetch (store.runOf? (request.scope "")) unbound
    require (run.itemId = request.itemId) unbound
    require (run.lifecycleState = .stopped ∨ run.lifecycleState = .failedFinal)
      (ControlError.dispatchDenied "T26 requires durable STOPPED or FAILED_FINAL state")
    checks.require .terminalEvidence
      (ControlError.dispatchDenied "terminal validation evidence does not bind the intent")
    let lost := ControlError.storageIntegrityError
      "terminal validation settlement lost its operation slot"
    let slot ← fetch (store.slot? request.repositoryId) lost
    let scope := request.scope slot.attemptId
    let generation ← operationAttemptGeneration store scope
    require (slotBinds slot scope slot.attemptId generation) lost
    let released ← terminalRelease checks store request slot
    let _ ← authorize "T26" (some run.lifecycleState) run.lifecycleState (requiredGuards "T26")
    let body := run.nextBody request.eventId request.commandId
      (some (run.change run.lifecycleState)) none
      (.terminalValidationSettled request.validatorIntentId
        { logicalEffectId := request.logicalEffectId
          slotAttemptId := slot.attemptId
          slotGeneration := slot.generation
          slotReleased := released })
    let store := { store with
      validatorIntents := store.validatorIntents.update
        (fun row => request.validatorIntentId = some row.validatorIntentId)
        (fun row => { row with active := false }) ValidatorIntent.conflict_inactive
      slot := if released then store.slot.delete (fun row =>
          row.repositoryId = request.repositoryId && row.runId = request.runId &&
            row.logicalEffectId = slot.logicalEffectId && row.attemptId = slot.attemptId &&
            row.generation = generation)
        else store.slot }
    let store ← store.recordOutcome digests body
    store.append digests body run.lifecycleState run.continuationCursor

end Aegis.DeliveryControl
