/-
# DeliveryControl.EffectObservation — a receipt of the effect target

`_record_effect_observation`: a receipt settles the reservation of its attempt
(unless it names a settlement that is already recorded), takes one of the three
receipt routes, invalidates a retry authorization it contradicts, and releases
the outstanding slot of a failed or stopped run whose accounting is closed.

`accountingClosed` is `_accounting_closure_error`, as the live operations call it.
-/
import Aegis.DeliveryControl.BudgetSettlement

namespace Aegis.DeliveryControl

open Aegis.Lib
open Aegis.Lib.Guarded
open Aegis.DeliveryControl.TargetLedger (ContactKind)

set_option autoImplicit false

/-! ## Accounting closure -/

/-- The reservations of a run. -/
def Store.reservationsOf (store : Store) (repositoryId runId : String) : List Reservation :=
  store.reservations.rows.filter (fun row => row.scope.repositoryId = repositoryId &&
    row.scope.runId = runId)

/-- The head settlement of a reservation shows authoritative usage or non-execution,
and nothing is held or uncertain. -/
def settledConclusively (checks : Checks) (store : Store) (reservation : Reservation) : Bool :=
  match store.settlements.find? (fun row =>
      row.settlementHash = reservation.settlementHeadHash) with
  | none => false
  | some head =>
      let request := head.body.request
      let usage := reservation.disposition.knownUsage &&
        request.actualUnits = some reservation.chargedUnits
      let nonexecution := reservation.disposition = .released && reservation.chargedUnits = 0 &&
        head.nondispatch && request.nonDispatchProven && request.zeroLiabilityProven &&
        request.allObligationsSettled && !head.body.contradiction &&
        ((store.validatorOf? reservation.reservationId).isSome || checks .nonexecutionRecorded)
      reservation.heldUnits = 0 && !reservation.uncertainty && (usage || nonexecution)

/-- `_accounting_closure_error` is `None`: a receipt stands, every reservation of
the run is settled conclusively, and every validator of the run is settled. -/
def accountingClosed (checks : Checks) (store : Store) (scope : AttemptScope)
    (settlingObservation : Bool) (settlingValidator : Option String)
    (observationOptional : Bool) : Bool :=
  let reservations := store.reservationsOf scope.repositoryId scope.runId
  let operation := reservations.filter (fun row =>
    row.scope.logicalEffectId = scope.logicalEffectId && row.scope.attemptId = scope.attemptId)
  let validators := store.validatorIntents.rows.filter (fun row =>
    row.scope.repositoryId = scope.repositoryId && row.scope.runId = scope.runId)
  (settlingObservation || observationOptional || store.observations.any (fun row =>
      row.scope.repositoryId = scope.repositoryId && row.scope.runId = scope.runId &&
        row.scope.logicalEffectId = scope.logicalEffectId &&
        row.scope.attemptId = scope.attemptId)) &&
    operation.length = (if observationOptional then 0 else 1) &&
    reservations.all (settledConclusively checks store) &&
    validators.all (fun row => reservations.any (fun reservation =>
        reservation.reservationId = row.reservationId) &&
      (!row.active || settlingValidator = some row.validatorIntentId)) &&
    checks .validatorEvidence

/-! ## The request -/

/-- `EffectObservationRequest`; an absent classification is the empty text of the source. -/
structure EffectObservationRequest where
  observationId : String
  commandId : String
  eventId : String
  scope : AttemptScope
  sourceReceiptId : String
  sourceClaimId : String
  payloadDigest : String
  usageUnits : Option Nat
  settlementEventId : String
  settlementHash : String
  classification : Option SourceControlClassification
  sourceControlEvidenceId : String
  sourceControlEvidenceDigest : String
  sourceControlIssuerFingerprint : String
  sourceControlIssuerMac : String
  deriving DecidableEq, Repr

/-- The texts of the source/control evidence besides its classification. -/
def EffectObservationRequest.evidence (request : EffectObservationRequest) : List String :=
  [request.sourceControlEvidenceId, request.sourceControlEvidenceDigest,
    request.sourceControlIssuerFingerprint, request.sourceControlIssuerMac]

/-- `EffectObservationRequest.validate`. -/
def EffectObservationRequest.validate (request : EffectObservationRequest) :
    Except ControlError Unit := do
  require (∀ value ∈ [request.observationId, request.commandId, request.eventId,
      request.scope.repositoryId, request.scope.runId, request.scope.itemId,
      request.scope.logicalEffectId, request.scope.attemptId, request.sourceReceiptId,
      request.sourceClaimId, request.payloadDigest, request.settlementEventId], nonBlank value)
    (ControlError.valueError "observation identifiers and digests must be non-empty")
  refuse ((request.classification.isSome = true ∨ ∃ value ∈ request.evidence, value ≠ "") ∧
      ¬ (request.classification.isSome = true ∧ ∀ value ∈ request.evidence, nonBlank value))
    (ControlError.valueError "source/control evidence must be complete or absent")

/-- `ObservationReceipt`. -/
structure ObservationReceipt where
  observationId : String
  commandId : String
  eventId : String
  sequence : Nat
  eventHash : String
  resultingState : LifecycleState
  replayed : Bool
  deriving DecidableEq, Repr

/-- `_observation_receipt`. -/
def Observation.receipt (row : Observation) (replayed : Bool) : ObservationReceipt where
  observationId := row.observationId
  commandId := row.commandId
  eventId := row.eventId
  sequence := row.sequence
  eventHash := row.eventHash
  resultingState := row.resultingState
  replayed := replayed

/-! ## Accounting of a receipt -/

/-- `_effect_observation_accounting_error`. -/
def effectObservationAccountingError (usageUnits : Option Nat) (disposition : BudgetDisposition)
    (chargedUnits : Nat) (uncertainty : Bool) : Option String :=
  match usageUnits with
  | none =>
      if disposition = .unknownWorstCaseCharged then
        if uncertainty then none else some "unknown receipt accounting lost uncertainty"
      else if !disposition.knownUsage || uncertainty then
        some "missing receipt usage has invalid accounting history"
      else none
  | some usage =>
      if !disposition.knownUsage || uncertainty || chargedUnits ≠ usage then
        some "known receipt usage does not match settled accounting"
      else none

/-- The disposition a receipt settles its reservation with. -/
def receiptDisposition (current : BudgetDisposition) (usageUnits : Option Nat) :
    BudgetDisposition :=
  match usageUnits with
  | none => .unknownWorstCaseCharged
  | some _ => if current = .reserved then .consumed else .adjusted

/-- The settlement request of a receipt. -/
def receiptSettlement (request : EffectObservationRequest) (reservation : Reservation) :
    BudgetSettlementRequest :=
  let disposition := receiptDisposition reservation.disposition request.usageUnits
  { settlementEventId := request.settlementEventId
    reservationId := reservation.reservationId
    expectedPreviousHash := reservation.settlementHeadHash
    disposition := disposition
    actualUnits := request.usageUnits
    evidenceDigest := request.sourceReceiptId
    reasonCode := if request.usageUnits.isNone then "USAGE_UNKNOWN" else "USAGE_REPORTED"
    nonDispatchProven := false
    zeroLiabilityProven := false
    releaseSlot := false
    allObligationsSettled := false
    additionalLiability :=
      disposition = .unknownWorstCaseCharged && reservation.disposition.knownUsage
    scope := request.scope
    nonexecutionSealId := none }

/-- The fence of the predecessor, when a receipt resolves an additional liability. -/
def receiptResolves (store : Store) (reservation : Reservation) (next : BudgetDisposition) :
    Option FenceId :=
  if reservation.disposition = .unknownWorstCaseCharged ∧ next = .adjusted then
    match store.settlements.find? (fun row => row.reservationId = reservation.reservationId &&
        row.settlementHash = reservation.settlementHeadHash) with
    | some predecessor =>
        if predecessor.body.request.additionalLiability then
          some (.additionalLiability predecessor.settlementEventId) else none
    | none => none
  else none

/-- The fences a receipt's settlement raises. -/
def receiptRaises (reservation : Reservation) (settlement : SettlementBody) : List Fence :=
  let request := settlement.request
  let repositoryId := request.scope.repositoryId
  (if request.additionalLiability then
      [additionalFence repositoryId request.settlementEventId] else []) ++
    (if reservation.disposition = .released then
      [lateFence repositoryId request.settlementEventId] else []) ++
    if isBudgetBreach request.disposition settlement.chargedUnits reservation.reservedUnits
        reservation.capUnits then [breachFence repositoryId request.settlementEventId] else []

/-- Delete the fence a receipt resolves; it need not stand. -/
def dropFence (store : Store) (resolved : Option FenceId) : Store :=
  match resolved with
  | some fenceId => store.clearFence fenceId
  | none => store

/-- The reservation of an attempt. -/
def Store.attemptReservation? (store : Store) (scope : AttemptScope) : Option Reservation :=
  store.reservations.find? (fun row => row.scope.repositoryId = scope.repositoryId &&
    row.scope.logicalEffectId = scope.logicalEffectId && row.scope.attemptId = scope.attemptId)

/-- Settle the reservation of a receipt's attempt. -/
def settleReceipt (digests : StoreDigests) (store : Store) (request : EffectObservationRequest)
    (run : RunRow) : Except ControlError (SettlementRow × Store) := do
  require (request.settlementHash = "")
    (ControlError.dispatchDenied "observation settlement hash has no durable settlement")
  let unbound := ControlError.dispatchDenied
    "observation accounting does not bind the receipt attempt"
  let reservation ← fetch (store.attemptReservation? request.scope) unbound
  require (reservation.scope.runId = request.scope.runId ∧
    reservation.scope.itemId = request.scope.itemId) unbound
  let settlementRequest := receiptSettlement request reservation
  let (_, charged, uncertainty) ← settlementAccounting reservation settlementRequest
  let settlement : SettlementBody :=
    { request := settlementRequest
      heldUnits := 0
      chargedUnits := charged
      uncertainty := uncertainty
      contradiction := false }
  let body := run.nextBody request.settlementEventId ("settlement:" ++ request.settlementEventId)
    none none (.budgetSettled settlement)
  let row : SettlementRow := ⟨digests.event body, false, settlement⟩
  let resolved := receiptResolves store reservation settlementRequest.disposition
  let store ← store.settle row
  let store ← (dropFence store resolved).raiseFences (receiptRaises reservation settlement)
  let store ← store.append digests body run.lifecycleState run.continuationCursor
  return (row, store)

/-- The recorded settlement a receipt names, or the one it makes. -/
def receiptAccounting (digests : StoreDigests) (store : Store) (request : EffectObservationRequest)
    (run : RunRow) : Except ControlError (SettlementRow × Store) :=
  match store.settlements.find? (fun row =>
      row.settlementEventId = request.settlementEventId) with
  | some prior => .ok (prior, store)
  | none => settleReceipt digests store request run

/-! ## The route of a receipt -/

/-- The authorization of a retry that a receipt of its prior attempt contradicts. -/
def Store.contradictedRetry? (store : Store) (scope : AttemptScope) : Option RetryAuthorization :=
  let standing := fun (kind : RetryKind) => store.authorizations.find? (fun row =>
    row.kind = kind && row.scope = scope && (row.status = .available || row.status = .consumed))
  standing .provenNonexecution <|> standing .safeSameEffect

/-- The committed intent of an attempt and the claim it redeemed. -/
def Store.attemptIntent? (store : Store) (scope : AttemptScope) :
    Option (OperationIntent × String) :=
  store.events.rows.findSome? (fun row =>
    match row.body.detail with
    | .intentCommitted intent claimId =>
        if row.body.runId = scope.runId ∧ store.redemptions.any (fun redemption =>
            redemption.commandId = row.body.commandId &&
              redemption.logicalEffectId = scope.logicalEffectId &&
              redemption.attemptId = scope.attemptId) then some (intent, claimId) else none
    | _ => none)

/-- What the route of a receipt was decided from, and the route. -/
structure ReceiptPlan where
  run : RunRow
  settlement : SettlementRow
  retry : Option RetryAuthorization
  slot : Option SlotRow
  reconciles : Bool
  kind : ReceiptKind
  resulting : LifecycleState
  slotReleased : Bool

/-- The slot row, when the attempt of the receipt owns it. -/
def Store.ownedSlot? (store : Store) (scope : AttemptScope) : Option SlotRow :=
  (store.slot? scope.repositoryId).filter (fun slot => slot.runId = scope.runId &&
    slot.logicalEffectId = scope.logicalEffectId && slot.attemptId = scope.attemptId)

/-- A receipt that reconciles the dispatch it belongs to: the run waits for exactly
this contact, and no fence applies. -/
def reconcilesCurrentDispatch (store : Store) (run : RunRow) (scope : AttemptScope)
    (ownsSlot : Bool) : Bool :=
  run.lifecycleState = .reconciliationRequired && ownsSlot &&
    match store.launches.find? (fun row => row.scope = scope) with
    | some launch =>
        run.continuationCursor = some ("operation-effect:v1:" ++ launch.launchId) &&
          store.contacts.any (fun row => row.contactKind = .effect &&
            row.sourceId = "EFFECT:" ++ launch.launchId) &&
          (store.activeFences scope).isEmpty
    | none => false

/-- The checks of a receipt after its accounting, and its route. -/
def receiptPlan (checks : Checks) (store : Store) (request : EffectObservationRequest)
    (classification : SourceControlClassification) (before run : RunRow)
    (settlement : SettlementRow) (retry : Option RetryAuthorization) :
    Except ControlError ReceiptPlan := do
  let unbound := ControlError.dispatchDenied
    "observation accounting does not bind the receipt and attempt"
  let reservation ← fetch (store.reservation? settlement.reservationId) unbound
  require (reservation.scope = request.scope ∧
    settlement.body.request.evidenceDigest = request.sourceReceiptId) unbound
  match effectObservationAccountingError request.usageUnits settlement.body.request.disposition
      settlement.body.chargedUnits settlement.body.uncertainty with
  | some message => .error (.dispatchDenied message)
  | none => do
      let slot := store.ownedSlot? request.scope
      let ordinary := (before.lifecycleState = .running || before.lifecycleState = .pausing) &&
        retry.isNone && slot.isSome
      let reconciles := reconcilesCurrentDispatch store before request.scope slot.isSome
      let (kind, resulting) ← deriveEffectObservationRoute before.lifecycleState classification
        (settlement.body.request.disposition = .unknownWorstCaseCharged) (!ordinary) reconciles
      let slotReleased := (before.lifecycleState = .failedFinal ||
          before.lifecycleState = .stopped) && slot.isSome && checks .checksSettled &&
        accountingClosed checks store request.scope true none false
      -- A settlement that the request does not name by hash must be the run's last event:
      -- the receipt takes the next sequence after it.
      require (request.settlementHash ≠ "" ∨ settlement.settlementHash = run.headHash)
        (uniqueError "events")
      return {
        run := run
        settlement := settlement
        retry := retry
        slot := slot
        reconciles := reconciles
        kind := kind
        resulting := resulting
        slotReleased := slotReleased }

/-- The cursor a receipt leaves in its body, if it names one. -/
def ReceiptPlan.cursor (plan : ReceiptPlan) (observationId : String) : Option (Option String) :=
  if plan.retry.isSome then
    some (if plan.resulting = .reconciliationRequired then
      some ("pending-validation:v1:" ++ observationId) else none)
  else if plan.reconciles then
    some (if plan.resulting = .validating then none else plan.run.continuationCursor)
  else none

/-- The event of a receipt. -/
def ReceiptPlan.body (plan : ReceiptPlan) (request : EffectObservationRequest)
    (classification : SourceControlClassification) : EventBody :=
  plan.run.nextBody request.eventId request.commandId (some (plan.run.change plan.resulting))
    (plan.cursor request.observationId)
    (.receipt plan.kind
      { observationId := request.observationId
        logicalEffectId := request.scope.logicalEffectId
        attemptId := request.scope.attemptId
        usageUnits := request.usageUnits
        classification := classification
        settlementEventId := request.settlementEventId
        settlementHash := plan.settlement.settlementHash
        slotAttemptId := (plan.slot.map (·.attemptId)).getD request.scope.attemptId
        slotGeneration := plan.slot.map (·.generation)
        slotReleased := plan.slotReleased
        reconcilesDispatch := plan.reconciles
        invalidatedRetryAuthorizationId := plan.retry.map (·.authorizationId) })

/-! ## `_record_effect_observation` -/

/-- A contradicted retry authorization is disabled; a consumed one leaves a fence. -/
def disableRetry (store : Store) (request : EffectObservationRequest)
    (retry : Option RetryAuthorization) : Except ControlError Store :=
  match retry with
  | none => .ok store
  | some authorization =>
      { store with
        authorizations := store.authorizations.update
          (fun row => row.kind = authorization.kind &&
            row.authorizationId = authorization.authorizationId &&
            row.status = authorization.status)
          (fun row => { row with
            status := .disabled
            disablingEventId := some request.eventId })
          (fun _ _ => Iff.rfl) }.raiseFences
        (if authorization.status = AuthorizationStatus.consumed then
          [{ fenceId := .retryInitiationDisabled authorization.authorizationId
             repositoryId := request.scope.repositoryId
             itemId := some request.scope.itemId
             logicalEffectId := some request.scope.logicalEffectId
             reasonCode := .recoveryInitiationDisabled
             originatingEventId := request.eventId }]
        else [])

/-- The fences of the uncertainties a receipt leaves: identity and reason. -/
def uncertaintyFences (scope : AttemptScope) (eventId : String)
    (uncertainties : List (String × String)) : List Fence :=
  uncertainties.map (fun uncertainty =>
    { fenceId := .other uncertainty.1
      repositoryId := scope.repositoryId
      itemId := some scope.itemId
      logicalEffectId := some scope.logicalEffectId
      reasonCode := .other uncertainty.2
      originatingEventId := eventId })

/-- The slot release of a receipt. -/
def releaseObservedSlot (store : Store) (scope : AttemptScope) (plan : ReceiptPlan) : Store :=
  match plan.slotReleased, plan.slot with
  | true, some slot =>
      { store with
        slot := store.slot.delete (fun row => row.repositoryId = scope.repositoryId &&
          row.runId = scope.runId && row.logicalEffectId = scope.logicalEffectId &&
          row.attemptId = scope.attemptId && row.generation = slot.generation) }
  | _, _ => store

/-- The writes of a receipt after its accounting. -/
def writeObservation (digests : StoreDigests) (store : Store) (request : EffectObservationRequest)
    (classification : SourceControlClassification) (plan : ReceiptPlan)
    (uncertainties : List (String × String)) : Except ControlError (Observation × Store) := do
  let body := plan.body request classification
  let row : Observation :=
    { observationId := request.observationId
      sourceReceiptId := request.sourceReceiptId
      commandId := request.commandId
      eventId := request.eventId
      scope := request.scope
      sourceClaimId := request.sourceClaimId
      usageUnits := request.usageUnits
      settlementEventId := request.settlementEventId
      settlementHash := plan.settlement.settlementHash
      eventHash := digests.event body
      sequence := body.sequence
      resultingState := plan.resulting }
  let observations ← store.observations.insert row (uniqueError "effect_observations")
  let store ← disableRetry { store with observations := observations } request plan.retry
  let store ← store.recordOutcome digests body
  let store ← store.raiseFences (uncertaintyFences request.scope request.eventId uncertainties)
  let store ← (releaseObservedSlot store request.scope plan).append digests body plan.resulting
    ((plan.cursor request.observationId).getD plan.run.continuationCursor)
  let store ← if plan.kind = .lateReceiptRecorded then
      fenceDependentAdoptions digests request.scope.repositoryId request.scope.runId
        request.eventId .contraryReceipt store
    else .ok store
  return (row, store)

/-- The writes of a receipt that was not recorded before, with its checks. -/
def observeEffect (digests : StoreDigests) (checks : Checks) (request : EffectObservationRequest)
    (classification : SourceControlClassification) (uncertainties : List (String × String))
    (store : Store) : Except ControlError (Observation × Store) := do
  refuse (store.events.any (fun row => row.body.eventId = request.eventId) = true)
    (ControlError.storageIntegrityError
      "observation event ID was already used by another fact")
  refuse (store.events.any (fun row => row.body.eventId = request.settlementEventId) = true ∧
      store.settlements.any (fun row => row.settlementEventId = request.settlementEventId) = false)
    (ControlError.storageIntegrityError
      "settlement event ID was already used by another fact")
  let unbound := ControlError.dispatchDenied "observation does not bind the recorded run"
  let before ← fetch (store.runOf? request.scope) unbound
  require (before.itemId = request.scope.itemId) unbound
  let retry := store.contradictedRetry? request.scope
  checks.require .planIssuer
    (ControlError.dispatchDenied "authority does not match the accepted plan")
  let (intent, claimId) ← fetch (store.attemptIntent? request.scope)
    (ControlError.storageIntegrityError "observation run has no durable intent")
  require (intent.scope = request.scope ∧
      intent.request.effectDescriptorDigest = request.payloadDigest ∧
      claimId = request.sourceClaimId)
    (ControlError.dispatchDenied "observation does not bind the durable intent")
  let (settlement, store) ← receiptAccounting digests store request before
  let run ← fetch (store.runOf? request.scope) unbound
  let plan ← receiptPlan checks store request classification before run settlement retry
  writeObservation digests store request classification plan uncertainties

/-- `_record_effect_observation`. -/
def recordEffectObservation (digests : StoreDigests) (repositoryId : String) (checks : Checks)
    (request : EffectObservationRequest) (uncertainties : List (String × String))
    (store : Store) : Except ControlError (ObservationReceipt × Store) := do
  request.validate
  require (request.scope.repositoryId = repositoryId)
    (ControlError.dispatchDenied "observation targets a different repository")
  let classification ← fetch request.classification
    (ControlError.dispatchDenied "new observations require complete source/control evidence")
  checks.require .evidence
    (ControlError.dispatchDenied "observation authority does not match the accepted plan")
  verifyStore checks store
  match store.outcome? request.commandId with
  | some _ => do
      checks.require .samePayload
        (ControlError.storageIntegrityError "command ID was reused with a different payload")
      let prior ← fetch (store.observations.find? (fun row => row.commandId = request.commandId))
        (ControlError.storageIntegrityError "observation command outcome lost its observation")
      return (prior.receipt true, store)
  | none =>
      match store.observations.find? (fun row => row.observationId = request.observationId ||
          row.sourceReceiptId = request.sourceReceiptId) with
      | some prior => do
          checks.require .samePayload
            (ControlError.storageIntegrityError
              "observation identity was reused with different evidence")
          return (prior.receipt true, store)
      | none => do
          let (row, after) ← observeEffect digests checks request classification uncertainties
            store
          return (row.receipt false, after)

end Aegis.DeliveryControl
