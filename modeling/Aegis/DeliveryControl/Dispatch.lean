/-
# DeliveryControl.Dispatch — intent, launch and contact of one operation

The three transactions a dispatch makes in the controller store before it calls
the target: `commit_intent` takes the outstanding slot (or transfers it to the
successor attempt of a retry), `claim_operation_launch` claims the one launch of
the attempt, and `_contact_claimed_operation` claims the one contact of the
launch and charges its worst case as unknown.
-/
import Mathlib.Algebra.GroupWithZero.Nat
import Aegis.DeliveryControl.StoreWrites

namespace Aegis.DeliveryControl

open Aegis.Lib
open Aegis.Lib.Guarded
open Aegis.DeliveryControl.TargetLedger (ContactKind)

set_option autoImplicit false

/-! ## The request -/

/-- `RetryBinding` checks of the two recovered `validate` methods. -/
def RetryBinding.validate (retry : RetryBinding) (attemptId : String) :
    Except ControlError Unit := do
  require (nonBlank retry.recoveryAuthorizationId ∧ nonBlank retry.priorAttemptId)
    (ControlError.valueError (match retry.kind with
      | .provenNonexecution => "proven-nonexecution intent recovery bindings must be non-empty"
      | .safeSameEffect => "safe-retry intent bindings must be non-empty"))
  refuse (retry.priorAttemptId = attemptId)
    (ControlError.valueError (match retry.kind with
      | .provenNonexecution => "proven-nonexecution intent requires a successor attempt"
      | .safeSameEffect => "safe retry requires a successor attempt"))
  require (0 < retry.expectedSourceGeneration ∧
      retry.expectedTargetGeneration = retry.expectedSourceGeneration + 1)
    (ControlError.valueError (match retry.kind with
      | .provenNonexecution => "proven-nonexecution intent generations must advance exactly once"
      | .safeSameEffect => "safe-retry generations must advance exactly once"))

/-- `IntentRequest.validate`. -/
def IntentRequest.validate (request : IntentRequest) : Except ControlError Unit := do
  require (∀ value ∈ [request.repositoryId, request.runId, request.itemId, request.commandId,
      request.eventId, request.logicalEffectId, request.effectDescriptorDigest,
      request.attemptId, request.permissionUseId, request.reservationId,
      request.budgetPolicyDigest], nonBlank value)
    (ControlError.valueError "intent identifiers and digests must be non-empty")
  refuse (request.reservedUnits > request.worstCaseUnits)
    (ControlError.valueError "reserved units cannot exceed worst-case units")
  refuse (request.worstCaseUnits > request.capUnits)
    (ControlError.valueError "worst-case units cannot exceed the budget cap")

/-- `validate` of the request's own class. -/
def OperationIntent.validate (intent : OperationIntent) : Except ControlError Unit := do
  intent.request.validate
  match intent.retry with
  | some retry => retry.validate intent.request.attemptId
  | none => .ok ()

/-- `CommitReceipt`. -/
structure CommitReceipt where
  commandId : String
  eventId : String
  sequence : Nat
  eventHash : String
  replayed : Bool
  deriving DecidableEq, Repr

/-! ## `commit_intent` -/

/-- The binding of a capability to the intent it is presented with. -/
def capabilityBinds (intent : OperationIntent) (capability : SyntheticCapability) : Prop :=
  capability.repositoryId = intent.request.repositoryId ∧
    capability.logicalEffectId = intent.request.logicalEffectId ∧
    capability.attemptId = intent.request.attemptId

instance (intent : OperationIntent) (capability : SyntheticCapability) :
    Decidable (capabilityBinds intent capability) :=
  inferInstanceAs (Decidable (_ ∧ _))

/-- The authorization a recovered intent consumes: exactly bound, available, its
source slot owned by the prior attempt, and no receipt of that attempt. -/
def retryAuthorization (checks : Checks) (store : Store) (intent : OperationIntent)
    (retry : RetryBinding) : Except ControlError RetryAuthorization := do
  let request := intent.request
  let lacks := ControlError.dispatchDenied
    "recovered intent lacks its exact available authorization"
  let authorization ← fetch (store.authorizations.find? (fun row =>
    row.kind = retry.kind && row.authorizationId = retry.recoveryAuthorizationId)) lacks
  require (authorization.scope = { intent.scope with attemptId := retry.priorAttemptId } ∧
      authorization.successorAttemptId = request.attemptId ∧
      authorization.sourceGeneration = retry.expectedSourceGeneration ∧
      authorization.targetGeneration = retry.expectedTargetGeneration ∧
      authorization.status = .available ∧
      authorization.effectDescriptorDigest = request.effectDescriptorDigest) lacks
  let ownsNot := ControlError.dispatchDenied "recovered intent does not own its source slot"
  let slot ← fetch (store.slot? request.repositoryId) ownsNot
  require (slot.runId = request.runId ∧ slot.logicalEffectId = request.logicalEffectId ∧
      slot.attemptId = retry.priorAttemptId ∧
      slot.generation = retry.expectedSourceGeneration) ownsNot
  refuse (store.observations.any (fun row => row.scope.repositoryId = request.repositoryId &&
      row.scope.runId = request.runId && row.scope.logicalEffectId = request.logicalEffectId &&
      row.scope.attemptId = retry.priorAttemptId))
    (ControlError.dispatchDenied "recovered intent is contradicted by a receipt")
  require (retry.kind = .safeSameEffect → checks .retryProtection = true)
    (ControlError.dispatchDenied "safe-retry protection is expired")
  return authorization

/-- The slot check: a recovered intent has its authorization, any other an empty slot. -/
def intentSlot (checks : Checks) (store : Store) (intent : OperationIntent) :
    Except ControlError (Option RetryAuthorization) :=
  match intent.retry with
  | some retry => some <$> retryAuthorization checks store intent retry
  | none => do
      require (store.slot.rows = [])
        (ControlError.dispatchDenied "another operation owns the repository slot")
      return none

/-- The fences a reviewed safe retry may leave in place. -/
def RetryAuthorization.allowedFences (authorization : RetryAuthorization) : List FenceId :=
  .other authorization.outcomeFenceId ::
    authorization.coveredActivityUncertaintyIds.map FenceId.other

/-- The applicable fences are exactly the allowed ones. -/
def sameFences (active allowed : List FenceId) : Prop :=
  (∀ fence ∈ active, fence ∈ allowed) ∧ ∀ fence ∈ allowed, fence ∈ active

instance (active allowed : List FenceId) : Decidable (sameFences active allowed) :=
  inferInstanceAs (Decidable (_ ∧ _))

/-- The fence check of an intent. -/
def intentFences (store : Store) (intent : OperationIntent)
    (authorization : Option RetryAuthorization) : Except ControlError Unit :=
  match authorization with
  | some authorization =>
      if authorization.kind = .safeSameEffect then
        require (sameFences (store.activeFences intent.scope) authorization.allowedFences)
          (.dispatchDenied "safe retry has another active fence")
      else
        require (store.activeFences intent.scope = [])
          (.dispatchDenied "repository has an active dispatch fence")
  | none =>
      require (store.activeFences intent.scope = [])
        (.dispatchDenied "repository has an active dispatch fence")

/-- The effect row: a first intent creates it, a recovered one finds it. -/
def intentEffect (store : Store) (intent : OperationIntent) :
    Except ControlError (Table DurableEffect) := do
  let request := intent.request
  match store.effects.find? (fun row => row.repositoryId = request.repositoryId &&
      row.logicalEffectId = request.logicalEffectId) with
  | some existing => do
      require (existing.descriptorDigest = request.effectDescriptorDigest)
        (ControlError.storageIntegrityError "logical effect changed descriptor")
      require (intent.retry.isSome)
        (ControlError.dispatchDenied "logical effect already has durable history")
      return store.effects
  | none => do
      require (intent.retry = none)
        (ControlError.storageIntegrityError "recovered logical effect lost its durable history")
      store.effects.insert
        ⟨request.repositoryId, request.logicalEffectId, request.effectDescriptorDigest⟩
        (uniqueError "effects")

/-- `SUM(held_units + charged_units)` over the repository. -/
def Store.aggregate (store : Store) (repositoryId : String) : Nat :=
  ((store.reservations.rows.filter (fun row => row.scope.repositoryId = repositoryId)).map
    (fun row => row.heldUnits + row.chargedUnits)).sum

/-- The reservation of an intent; the CHECK constraints refuse units out of order. -/
def intentReservation (intent : OperationIntent) : Except ControlError Reservation :=
  let request := intent.request
  if ordered : request.reservedUnits ≤ request.worstCaseUnits ∧
      request.worstCaseUnits ≤ request.capUnits then
    .ok {
      reservationId := request.reservationId
      scope := intent.scope
      reservedUnits := request.reservedUnits
      worstCaseUnits := request.worstCaseUnits
      capUnits := request.capUnits
      heldUnits := request.reservedUnits
      chargedUnits := 0
      uncertainty := false
      disposition := .reserved
      settlementHeadHash := ""
      reserved_le_worst := ordered.1
      worst_le_cap := ordered.2 }
  else .error (.integrityError "CHECK constraint failed: budget_reservations")

/-- The slot after an intent: taken, or transferred from the prior attempt. -/
def intentTakesSlot (store : Store) (intent : OperationIntent) :
    Except ControlError (Table SlotRow) :=
  let request := intent.request
  match intent.retry with
  | some retry =>
      .ok <| store.slot.update
        (fun row => row.repositoryId = request.repositoryId && row.runId = request.runId &&
          row.logicalEffectId = request.logicalEffectId &&
          row.attemptId = retry.priorAttemptId &&
          row.generation = retry.expectedSourceGeneration)
        (fun row => { row with
          attemptId := request.attemptId
          generation := retry.expectedTargetGeneration
          originKind := .executionIntent
          originId := request.attemptId })
        (fun _ _ => Iff.rfl)
  | none =>
      store.slot.insert
        { repositoryId := request.repositoryId
          runId := request.runId
          logicalEffectId := request.logicalEffectId
          attemptId := request.attemptId
          generation := 1
          originKind := .executionIntent
          originId := request.attemptId }
        (uniqueError "outstanding_slot")

/-- The authorizations after an intent: a recovered one consumes its own. -/
def intentConsumes (store : Store) (intent : OperationIntent) : Table RetryAuthorization :=
  match intent.retry with
  | some retry =>
      store.authorizations.update
        (fun row => row.kind = retry.kind &&
          row.authorizationId = retry.recoveryAuthorizationId && row.status = .available)
        (fun row => { row with
          status := .consumed
          consumingEventId := some intent.request.eventId })
        (fun _ _ => Iff.rfl)
  | none => store.authorizations

/-- `INSERT OR REPLACE INTO operation_origins`. -/
def intentOrigin (store : Store) (intent : OperationIntent) :
    Except ControlError (Table OperationOrigin) :=
  let request := intent.request
  (store.origins.delete (fun row => row.runId = request.runId)).insert
    ⟨request.repositoryId, request.runId, request.logicalEffectId, .executionIntent,
      request.attemptId⟩
    (uniqueError "operation_origins")

/-- The receipt of a command that already has an outcome; nothing is written. -/
def commitReplay (checks : Checks) (store : Store) (intent : OperationIntent)
    (capability : SyntheticCapability) (prior : CommandOutcome) :
    Except ControlError CommitReceipt := do
  checks.require .issued
    (ControlError.dispatchDenied "synthetic capability was not issued by this authority")
  checks.require .samePayload
    (ControlError.storageIntegrityError "command ID was reused with a different payload")
  checks.require .planIssuer
    (ControlError.dispatchDenied "authority does not match the accepted plan")
  require (store.redemptions.any (fun row => row.commandId = intent.request.commandId &&
      row.claimId = capability.claimId && row.grantId = capability.grantId &&
      row.scopeDigest = capability.scopeDigest))
    (ControlError.dispatchDenied "intent replay does not bind the original capability")
  return ⟨intent.request.commandId, prior.eventId, prior.sequence, prior.eventHash, true⟩

/-- The checks of a new intent, in the order of the source; what they looked up. -/
def checkIntent (checks : Checks) (store : Store) (intent : OperationIntent)
    (capability : SyntheticCapability) :
    Except ControlError (RunRow × Table DurableEffect) := do
  let request := intent.request
  checks.require .freshness
    (ControlError.dispatchDenied "independent recovery freshness proof failed")
  checks.require .planIssuer
    (ControlError.dispatchDenied "authority does not match the accepted plan")
  checks.require .effectiveAuthority
    (ControlError.dispatchDenied "synthetic authority is not currently effective")
  checks.require .acceptedPlan
    (ControlError.dispatchDenied "intent does not match accepted plan execution pins")
  checks.require .forIntent
    (ControlError.dispatchDenied "synthetic capability is not claimed for an intent")
  refuse (store.redemptions.any (fun row => row.claimId = capability.claimId))
    (ControlError.dispatchDenied "synthetic capability was already redeemed")
  checks.require .expectedHead
    (ControlError.dispatchDenied "expected repository head does not match")
  let run ← fetch (store.run? request.runId)
    (ControlError.storageIntegrityError "accepted plan lost its durable run")
  require (run.itemId = request.itemId)
    (ControlError.storageIntegrityError "run ID changed item binding")
  require (run.lifecycleState = .planned)
    (ControlError.dispatchDenied "T03 requires durable PLANNED state")
  checks.require .writerEpoch
    (ControlError.dispatchDenied "writer epoch was already used")
  checks.require .readiness
    (ControlError.dispatchDenied "T03 requires current verified readiness")
  let authorization ← intentSlot checks store intent
  intentFences store intent authorization
  checks.require .effectGraph
    (ControlError.dispatchDenied "effect identity graph is incomplete or changed")
  let effects ← intentEffect store intent
  require (store.aggregate request.repositoryId + request.reservedUnits ≤ request.capUnits)
    (ControlError.dispatchDenied "budget cap would be exceeded")
  return (run, effects)

/-- The body of `INTENT_COMMITTED`. -/
def intentBody (intent : OperationIntent) (capability : SyntheticCapability) (run : RunRow) :
    EventBody :=
  { run.nextBody intent.request.eventId intent.request.commandId (some (run.change .running)) none
      (.intentCommitted intent capability.claimId) with
    repositoryId := intent.request.repositoryId }

/-- The writes of a new intent. -/
def writeIntent (digests : StoreDigests) (store : Store) (intent : OperationIntent)
    (capability : SyntheticCapability) (run : RunRow) (effects : Table DurableEffect) :
    Except ControlError Store := do
  let request := intent.request
  let uses ← store.permissionUses.insert
    ⟨request.permissionUseId, request.repositoryId, request.logicalEffectId, request.attemptId⟩
    (uniqueError "permission_uses")
  let reservation ← intentReservation intent
  let reservations ← store.reservations.insert reservation (uniqueError "budget_reservations")
  let origins ← intentOrigin store intent
  let slot ← intentTakesSlot store intent
  let redemptions ← store.redemptions.insert
    ⟨capability.claimId, request.repositoryId, capability.grantId, request.commandId,
      request.logicalEffectId, request.attemptId, capability.scopeDigest⟩
    (uniqueError "capability_redemptions")
  let body := intentBody intent capability run
  let store ← { store with
    effects := effects
    permissionUses := uses
    reservations := reservations
    origins := origins
    slot := slot
    authorizations := intentConsumes store intent
    redemptions := redemptions }.append digests body .running run.continuationCursor
  store.recordOutcome digests body

/-- `commit_intent`. -/
def commitIntent (digests : StoreDigests) (repositoryId : String) (checks : Checks)
    (intent : OperationIntent) (capability : SyntheticCapability) (store : Store) :
    Except ControlError (CommitReceipt × Store) := do
  intent.validate
  require (intent.request.repositoryId = repositoryId)
    (ControlError.dispatchDenied "intent targets a different repository")
  require (capabilityBinds intent capability)
    (ControlError.dispatchDenied "synthetic capability does not bind this intent")
  verifyProjections checks store
  match store.outcome? intent.request.commandId with
  | some prior => do
      let receipt ← commitReplay checks store intent capability prior
      return (receipt, store)
  | none => do
      let (run, effects) ← checkIntent checks store intent capability
      let after ← writeIntent digests store intent capability run effects
      let body := intentBody intent capability run
      return (⟨body.commandId, body.eventId, body.sequence, digests.event body, false⟩, after)

/-! ## `claim_operation_launch` -/

/-- `OperationLaunchReceipt`. -/
structure OperationLaunchReceipt where
  launchId : String
  eventId : String
  repositoryId : String
  runId : String
  itemId : String
  logicalEffectId : String
  attemptId : String
  intentEventHash : String
  eventHash : String
  replayed : Bool
  deriving DecidableEq, Repr

/-- The durable intent of a receipt: the event and the redemption of its command. -/
def Store.durableIntent? (store : Store) (eventId commandId : String) :
    Option (EventRow × OperationIntent × Redemption) := do
  let event ← store.events.find? (fun row => row.body.eventId = eventId)
  let redemption ← store.redemptions.find? (fun row => row.commandId = commandId)
  match event.body.detail with
  | .intentCommitted intent _ =>
      if event.body.commandId = commandId then some (event, intent, redemption) else none
  | _ => none

/-- The attempt owns the outstanding slot under the generation of its intent. -/
def Store.ownsSlot (store : Store) (intent : OperationIntent) : Prop :=
  ∃ slot ∈ store.slot? intent.request.repositoryId,
    slot.runId = intent.request.runId ∧ slot.logicalEffectId = intent.request.logicalEffectId ∧
      slot.attemptId = intent.request.attemptId ∧ slot.generation = intent.slotGeneration

instance (store : Store) (intent : OperationIntent) : Decidable (store.ownsSlot intent) :=
  inferInstanceAs (Decidable (∃ slot ∈ _, _))

/-- The reservation of the attempt is reserved and has no settlement. -/
def Store.unsettledReservation (store : Store) (intent : OperationIntent) : Prop :=
  ∃ reservation ∈ store.reservation? intent.request.reservationId,
    reservation.scope = intent.scope ∧ reservation.disposition = .reserved ∧
      reservation.settlementHeadHash = ""

instance (store : Store) (intent : OperationIntent) :
    Decidable (store.unsettledReservation intent) :=
  inferInstanceAs (Decidable (∃ reservation ∈ _, _))

/-- The fences a dispatch may meet: none, or those a consumed safe retry names. -/
def dispatchFences (checks : Checks) (store : Store) (intent : OperationIntent)
    (consumingEventId : String) : Except ControlError (List FenceId) :=
  match intent.retry with
  | some ⟨.safeSameEffect, authorizationId, priorAttemptId, source, target⟩ => do
      let lacks := ControlError.dispatchDenied "safe retry lacks its exact consumed authorization"
      let authorization ← fetch (store.authorizations.find? (fun row =>
        row.kind = .safeSameEffect && row.authorizationId = authorizationId)) lacks
      require (authorization.scope = { intent.scope with attemptId := priorAttemptId } ∧
          authorization.successorAttemptId = intent.request.attemptId ∧
          authorization.sourceGeneration = source ∧ authorization.targetGeneration = target ∧
          authorization.status = .consumed ∧
          authorization.consumingEventId = some consumingEventId) lacks
      checks.require .retryProtection
        (ControlError.dispatchDenied "safe-retry protection is expired")
      checks.require .activityUncertainty
        (ControlError.dispatchDenied "safe retry activity uncertainty changed after review")
      return authorization.allowedFences
  | _ => .ok []

/-- `claim_operation_launch`. -/
def claimOperationLaunch (digests : StoreDigests) (repositoryId : String) (checks : Checks)
    (intent : OperationIntent) (commit : CommitReceipt) (store : Store) :
    Except ControlError (OperationLaunchReceipt × Store) := do
  let request := intent.request
  intent.validate
  require (request.repositoryId = repositoryId)
    (ControlError.dispatchDenied "operation launch targets another repository")
  let launchId := "launch:" ++ request.commandId
  let eventId := "launch:" ++ request.eventId
  verifyStore checks store
  match store.launches.find? (fun row => row.launchId = launchId) with
  | some prior => do
      require (prior.scope = intent.scope ∧ prior.intentEventId = commit.eventId ∧
          prior.intentEventHash = commit.eventHash)
        (ControlError.storageIntegrityError "operation launch identity changed binding")
      return (⟨launchId, prior.eventId, prior.scope.repositoryId, prior.scope.runId,
        prior.scope.itemId, prior.scope.logicalEffectId, prior.scope.attemptId,
        prior.intentEventHash, prior.eventHash, true⟩, store)
  | none => do
      let (event, durable, redemption) ← fetch
        (store.durableIntent? commit.eventId request.commandId)
        (ControlError.dispatchDenied "operation launch does not bind the durable intent")
      require (event.eventHash = commit.eventHash ∧ commit.commandId = request.commandId)
        (ControlError.dispatchDenied "operation launch does not bind the durable intent")
      require (durable = intent)
        (ControlError.dispatchDenied "operation launch changed the durable intent")
      checks.require .effectiveAuthority
        (ControlError.dispatchDenied "synthetic authority is not currently effective")
      let run ← fetch (store.run? request.runId)
        (ControlError.dispatchDenied "operation launch does not bind the durable intent")
      require (run.lifecycleState = .running)
        (ControlError.dispatchDenied "operation launch requires RUNNING state")
      require (store.ownsSlot intent)
        (ControlError.dispatchDenied "operation launch does not own the slot")
      require (store.unsettledReservation intent)
        (ControlError.dispatchDenied "operation launch requires an unsettled reservation")
      let allowed ← dispatchFences checks store intent commit.eventId
      require (sameFences (store.activeFences intent.scope) allowed)
        (ControlError.dispatchDenied "operation launch has an active dispatch fence")
      let cursor := some ("operation-launch:v1:" ++ launchId)
      let body := run.nextBody eventId launchId (some (run.change .reconciliationRequired))
        (some cursor)
        (.operationLaunchClaimed launchId redemption.claimId commit.eventId commit.eventHash)
      let launches ← store.launches.insert
        ⟨launchId, eventId, intent.scope, redemption.claimId, commit.eventId, commit.eventHash,
          digests.event body⟩
        (uniqueError "operation_launches")
      let after ← { store with launches := launches }.append digests body
        .reconciliationRequired cursor
      return (⟨launchId, eventId, request.repositoryId, request.runId, request.itemId,
        request.logicalEffectId, request.attemptId, commit.eventHash, digests.event body, false⟩,
        after)

/-! ## `_contact_claimed_operation` -/

/-- `_claim_adapter_contact`: the one contact of a source, and its event. -/
def claimAdapterContact (digests : StoreDigests) (checks : Checks) (store : Store)
    (contactKind : ContactKind) (sourceId : String) (scope : AttemptScope) (targetDigest : String)
    (resulting : LifecycleState) (cursor : Option String) : Except ControlError (Contact × Store) := do
  checks.require .evidence
    (ControlError.dispatchDenied "adapter contact targets a noncanonical ledger")
  refuse (store.contacts.any (fun row => row.sourceId = sourceId))
    (ControlError.dispatchDenied "adapter contact was already claimed")
  let contactId := digests.contactId contactKind sourceId
  let eventId := "adapter-contact:" ++ contactId
  let run ← fetch (store.runs.find? (fun row => row.runId = scope.runId &&
      row.repositoryId = scope.repositoryId && row.itemId = scope.itemId))
    (ControlError.dispatchDenied "adapter contact run does not exist")
  let body := run.nextBody eventId contactId (some (run.change resulting)) (some cursor)
    (.adapterContactClaimed contactKind sourceId scope.logicalEffectId scope.attemptId)
  let contact : Contact :=
    ⟨contactId, eventId, scope, contactKind, sourceId, targetDigest, digests.event body⟩
  let contacts ← store.contacts.insert contact (uniqueError "adapter_contacts")
  let store ← { store with contacts := contacts }.append digests body resulting cursor
  return (contact, store)

/-- The request of an unknown settlement that charges the worst case. -/
def unknownSettlement (settlementEventId : String) (reservation : Reservation)
    (evidenceDigest reasonCode : String) : BudgetSettlementRequest where
  settlementEventId := settlementEventId
  reservationId := reservation.reservationId
  expectedPreviousHash := reservation.settlementHeadHash
  disposition := .unknownWorstCaseCharged
  actualUnits := none
  evidenceDigest := evidenceDigest
  reasonCode := reasonCode
  nonDispatchProven := false
  zeroLiabilityProven := false
  releaseSlot := false
  allObligationsSettled := false
  additionalLiability := false
  scope := reservation.scope
  nonexecutionSealId := none

/-- The worst case of an unsettled reservation, charged as unknown. -/
def chargeWorstCase (digests : StoreDigests) (store : Store) (reservation : Reservation)
    (settlementEventId evidenceDigest reasonCode : String) : Except ControlError Store := do
  require (reservation.disposition = .reserved ∧ reservation.settlementHeadHash = "")
    (ControlError.dispatchDenied
      "adapter contact uncertainty requires an unsettled reservation")
  let run ← fetch (store.run? reservation.scope.runId)
    (ControlError.storageIntegrityError "budget reservation lost its run binding")
  let settlement : SettlementBody :=
    { request := unknownSettlement settlementEventId reservation evidenceDigest reasonCode
      heldUnits := 0
      chargedUnits := reservation.worstCaseUnits
      uncertainty := true
      contradiction := false }
  let body := run.nextBody settlementEventId ("settlement:" ++ settlementEventId) none none
    (.budgetSettled settlement)
  let store ← store.settle ⟨digests.event body, false, settlement⟩
  store.append digests body run.lifecycleState run.continuationCursor

/-- `_append_contact_uncertainty_settlement`. -/
def appendContactUncertaintySettlement (digests : StoreDigests) (store : Store) (contact : Contact)
    (reservationId : String) : Except ControlError Store := do
  let unbound := ControlError.dispatchDenied
    "uncertainty settlement does not bind the adapter contact"
  let reservation ← fetch (store.reservation? reservationId) unbound
  require (contact.scope = reservation.scope) unbound
  chargeWorstCase digests store reservation ("dispatch-uncertainty:" ++ contact.contactId)
    contact.eventHash "DISPATCH_OUTCOME_UNKNOWN"

/-- The launch a receipt names, with everything it binds. -/
def launchBinds (row : Launch) (intent : OperationIntent) (capability : SyntheticCapability)
    (commit : CommitReceipt) (launch : OperationLaunchReceipt) : Prop :=
  row.eventId = launch.eventId ∧ row.scope = intent.scope ∧
    row.capabilityClaimId = capability.claimId ∧ row.intentEventId = commit.eventId ∧
    row.intentEventHash = commit.eventHash ∧ row.eventHash = launch.eventHash

instance (row : Launch) (intent : OperationIntent) (capability : SyntheticCapability)
    (commit : CommitReceipt) (launch : OperationLaunchReceipt) :
    Decidable (launchBinds row intent capability commit launch) :=
  inferInstanceAs (Decidable (_ ∧ _))

/-- `_contact_claimed_operation`. -/
def contactClaimedOperation (digests : StoreDigests) (checks : Checks) (intent : OperationIntent)
    (capability : SyntheticCapability) (commit : CommitReceipt) (launch : OperationLaunchReceipt)
    (targetDigest : String) (store : Store) : Except ControlError Store := do
  let request := intent.request
  verifyStore checks store
  let unbound := ControlError.dispatchDenied
    "adapter contact does not bind a durable operation launch"
  let launchRow ← fetch (store.launches.find? (fun row => row.launchId = launch.launchId)) unbound
  require (launchBinds launchRow intent capability commit launch) unbound
  let (event, durable, _) ← fetch (store.durableIntent? commit.eventId request.commandId)
    (ControlError.dispatchDenied "adapter contact does not bind a durable operation intent")
  require (event.eventHash = commit.eventHash)
    (ControlError.dispatchDenied "adapter contact does not bind a durable operation intent")
  require (durable = intent)
    (ControlError.dispatchDenied "adapter contact changed the durable operation intent")
  checks.require .effectiveAuthority
    (ControlError.dispatchDenied "synthetic authority is not currently effective")
  checks.require .issued
    (ControlError.dispatchDenied "synthetic capability has no committed intent")
  let reconciliation := ControlError.dispatchDenied
    "adapter contact requires the exact launch reconciliation"
  let run ← fetch (store.runs.find? (fun row => row.runId = request.runId &&
    row.repositoryId = request.repositoryId && row.itemId = request.itemId)) reconciliation
  require (run.lifecycleState = .reconciliationRequired ∧
    run.continuationCursor = some ("operation-launch:v1:" ++ launch.launchId)) reconciliation
  require (store.ownsSlot intent)
    (ControlError.dispatchDenied "adapter contact does not own the slot")
  require (store.unsettledReservation intent)
    (ControlError.dispatchDenied "adapter contact requires an unsettled reservation")
  let allowed ← dispatchFences checks store intent commit.eventId
  require (sameFences (store.activeFences intent.scope) allowed)
    (ControlError.dispatchDenied "adapter contact has an active dispatch fence")
  let (contact, store) ← claimAdapterContact digests checks store .effect
    ("EFFECT:" ++ launch.launchId) intent.scope targetDigest .reconciliationRequired
    (some ("operation-effect:v1:" ++ launch.launchId))
  appendContactUncertaintySettlement digests store contact request.reservationId

end Aegis.DeliveryControl
